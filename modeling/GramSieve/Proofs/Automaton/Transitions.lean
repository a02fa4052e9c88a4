import GramSieve.Proofs.Automaton.Ranges
import GramSieve.Proofs.Automaton.Subset

namespace GramSieve.Automaton

/-!
# The transitions of a deterministic automaton

* `Sweep.run_keeps` — what every crossing and every stretch between boundaries keeps, a sweep keeps.
* `Apart`, `apart_push`, `Apart.target_ne` — transitions that touch lead to different states.
* `Sweep.Fresh`, `Sweep.fresh_of_run` — every set that a sweep adds is led to by one of its transitions.
* `Dfa.reached_of_explore`, `Dfa.apart_of_explore` — so every state is reached, and everywhere touching
  transitions differ.
* `Dfa.WellFormed`, `Dfa.wellFormed_of_ofRegex` — what holds of the states of the automaton of an
  expression.
* `Dfa.step?_eq_some_iff` — the binary search takes the only transition that holds a character.
-/

open Subsets

variable {nfa : Nfa} {limit links : Nat}

/-! ### What a sweep keeps -/

/-- What holds when boundaries are crossed and when the stretches between them are added holds after
the whole sweep. -/
theorem Sweep.run_keeps {P : Sweep → Prop}
    (hcross : ∀ (sweep : Sweep) (active : OpenTargets), P sweep → P { sweep with active })
    (hbetween : ∀ (sweep sweep' : Sweep) (lo stop : Nat), P sweep →
      sweep.between nfa links limit lo stop = .ok sweep' → P sweep')
    {bs : List Boundary} {sweep sweep' : Sweep} (hsweep : P sweep)
    (h : run nfa links limit sweep bs = .ok sweep') : P sweep' := by
  -- A step of the sweep crosses a boundary and then, unless the next one is at the same point, passes
  -- a stretch.
  induction bs generalizing sweep with
  | nil =>
    rw [run] at h
    cases h
    exact hsweep
  | cons b rest ih =>
    cases rest with
    | nil =>
      rw [run] at h
      cases h
      exact hcross _ _ hsweep
    | cons next rest =>
      rw [run] at h
      split at h
      · apply ih _ h
        exact hcross _ _ hsweep
      · obtain ⟨crossed, hcrossed, h⟩ := ok_of_bind h
        apply ih _ h
        apply hbetween _ _ _ _ _ hcrossed
        exact hcross _ _ hsweep

/-! ### Touching transitions -/

/-- Neighbouring transitions that touch lead to different states. The last transition comes first. -/
def Apart (ts : List Transition) : Prop :=
  ts.IsChain fun later earlier => earlier.hi + 1 = later.lo → earlier.target ≠ later.target

/-- A transition that touches the last one and leads to the same target is joined to it, so neighbours
stay apart. -/
theorem apart_push {t : Transition} {ts : List Transition} (h : Apart ts) :
    Apart (Sweep.push t ts) := by
  cases ts with
  | nil => exact List.isChain_singleton t
  | cons last before =>
    rw [Sweep.push]
    split
    · -- Only the upper end of the last transition moves, which no neighbour looks at.
      cases before with
      | nil => exact List.isChain_singleton _
      | cons other before =>
        obtain ⟨hlast, hbefore⟩ := List.isChain_cons_cons.mp h
        exact List.isChain_cons_cons.mpr ⟨hlast, hbefore⟩
    · rename_i hcond
      simp only [Bool.and_eq_true, decide_eq_true_eq, not_and] at hcond
      apply List.isChain_cons_cons.mpr
      exact ⟨fun htouch htarget => hcond htarget htouch, h⟩

/-- In ascending transitions, those that touch are neighbours. -/
theorem Apart.pairwise {ts : List Transition} (h : Apart ts)
    (hsorted : ts.Pairwise fun later earlier => earlier.hi < later.lo)
    (hproper : ∀ t ∈ ts, t.lo ≤ t.hi) :
    ts.Pairwise fun later earlier => earlier.hi + 1 = later.lo → earlier.target ≠ later.target := by
  induction ts with
  | nil => exact .nil
  | cons t ts ih =>
    obtain ⟨hbelow, hsorted⟩ := List.pairwise_cons.mp hsorted
    obtain ⟨hlo, hproper⟩ := List.forall_mem_cons.mp hproper
    apply List.pairwise_cons.mpr
    refine ⟨?_, ih h.tail hsorted hproper⟩
    intro earlier hearlier htouch
    cases ts with
    | nil => cases hearlier
    | cons next rest =>
      obtain ⟨hnext, -⟩ := List.isChain_cons_cons.mp h
      rcases List.mem_cons.mp hearlier with rfl | hrest
      · exact hnext htouch
      · -- The transition in between leaves no room.
        have hnextlo := hbelow next (.head _)
        have hnextproper := hproper next (.head _)
        have hgap := (List.pairwise_cons.mp hsorted).1 earlier hrest
        omega

/-- Transitions that touch lead to different targets, also if others were added in between. -/
theorem Apart.target_ne {ts : List Transition} {a b : Transition} (h : Apart ts)
    (hsorted : ts.Pairwise fun later earlier => earlier.hi < later.lo)
    (hproper : ∀ t ∈ ts, t.lo ≤ t.hi) (ha : a ∈ ts) (hb : b ∈ ts) (htouch : a.hi + 1 = b.lo) :
    a.target ≠ b.target := by
  have hearlier := h.pairwise hsorted hproper
  -- The other way around, transitions do not touch.
  have hlater : ts.Pairwise fun later earlier =>
      later.hi + 1 = earlier.lo → later.target ≠ earlier.target := by
    apply hsorted.imp_of_mem
    intro later earlier hl he hlt htouch
    have hllo := hproper later hl
    have helo := hproper earlier he
    omega
  refine List.Pairwise.forall_of_forall_of_flip ?_ hlater hearlier ha hb htouch
  intro t ht htouch
  have hlo := hproper t ht
  omega

/-! ### The transitions of a state -/

section Swept

variable {set : List Nat} {sets : Array (List Nat)} {stop : Nat} {ts : List Transition} {t : Transition}

/-- A transition reaches no further than the ranges that are read. -/
theorem Swept.hi_le {max : Nat} (h : Swept nfa set sets stop ts)
    (hranges : Nfa.EveryRange (fun r => r.hi ≤ max) nfa.states) (ht : t ∈ ts) : t.hi ≤ max := by
  obtain ⟨targets, hne, -, htargets⟩ := h.sound t ht t.hi (h.proper t ht).1 (Nat.le_refl _)
  obtain ⟨target, htarget⟩ := List.exists_mem_of_ne_nil targets hne
  obtain ⟨p, -, source, hsource, hany, -⟩ := (htargets target).mp htarget
  obtain ⟨r, hr, hcontains⟩ := List.any_eq_true.mp hany
  have hmax := hranges source (Array.mem_of_getElem? hsource) r hr
  simp only [CodeRange.contains, Bool.and_eq_true, decide_eq_true_eq] at hcontains
  omega

/-- Every transition leads to a set that has a number. -/
theorem Swept.target_lt (h : Swept nfa set sets stop ts) (ht : t ∈ ts) : t.target < sets.size := by
  obtain ⟨targets, -, hset, -⟩ := h.sound t ht t.lo (Nat.le_refl _) (h.proper t ht).1
  exact (Array.getElem?_eq_some_iff.mp hset).1

end Swept

/-! ### New sets -/

/-- Joining transitions loses none of their targets. -/
theorem exists_target_push {t s : Transition} {ts : List Transition} (h : s = t ∨ s ∈ ts) :
    ∃ s' ∈ Sweep.push t ts, s'.target = s.target := by
  cases ts with
  | nil =>
    rcases h with rfl | h
    · exact ⟨s, .head _, rfl⟩
    · cases h
  | cons last before =>
    rw [Sweep.push]
    split
    -- The transition is joined to the last one, which has the same target.
    · rename_i hcond
      simp only [Bool.and_eq_true, decide_eq_true_eq] at hcond
      rcases h with rfl | h
      · exact ⟨_, .head _, hcond.1⟩
      · rcases List.mem_cons.mp h with rfl | h
        · exact ⟨_, .head _, rfl⟩
        · exact ⟨s, .tail _ h, rfl⟩
    · exact ⟨s, List.mem_cons.mpr h, rfl⟩

/-- At most the set that is asked for is added. -/
theorem Subsets.intern_size {found found' : Subsets} {set : List Nat} {number : Nat}
    (h : found.intern limit set = .ok (number, found')) :
    found' = found ∨ (number = found.sets.size ∧ found'.sets.size = number + 1) := by
  unfold intern at h
  split at h
  · cases h
    exact .inl rfl
  · simp only at h
    split at h
    · cases h
    · cases h
      exact .inr ⟨rfl, Array.size_push _⟩

namespace Sweep

/-- Every set that was added since there were `base` is led to. -/
structure Fresh (base : Nat) (sweep : Sweep) : Prop where
  base_le : base ≤ sweep.found.sets.size
  led : ∀ i, base ≤ i → i < sweep.found.sets.size → ∃ t ∈ sweep.transitions, t.target = i

variable {base : Nat} {sweep sweep' : Sweep}

/-- Looking up a target numbers one set more, which is the target itself, or none. -/
theorem target_size {key : List Nat} {number : Nat}
    (h : sweep.target nfa links limit key = .ok (number, sweep')) :
    sweep'.transitions = sweep.transitions ∧ (sweep'.found = sweep.found ∨
      (number = sweep.found.sets.size ∧ sweep'.found.sets.size = number + 1)) := by
  unfold target at h
  split at h
  · cases h
    exact ⟨rfl, .inl rfl⟩
  · obtain ⟨⟨n, found⟩, hintern, h⟩ := ok_of_bind h
    cases h
    exact ⟨rfl, intern_size hintern⟩

/-- A stretch adds at most one set, and a transition to it. -/
theorem Fresh.between {lo stop : Nat} (hsweep : sweep.Fresh base)
    (h : sweep.between nfa links limit lo stop = .ok sweep') : sweep'.Fresh base := by
  unfold Sweep.between at h
  split at h
  · cases h
    exact hsweep
  · obtain ⟨⟨number, found⟩, htarget, h⟩ := ok_of_bind h
    cases h
    obtain ⟨hts, hsize⟩ := target_size htarget
    have hbase := hsweep.base_le
    constructor
    · show base ≤ found.found.sets.size
      rcases hsize with heq | ⟨hnumber, hsize⟩
      · rwa [heq]
      · omega
    · intro i hi hlt
      show ∃ t ∈ push ⟨lo, stop - 1, number⟩ found.transitions, t.target = i
      rw [hts]
      by_cases hold : i < sweep.found.sets.size
      · obtain ⟨s, hs, rfl⟩ := hsweep.led i hi hold
        exact exists_target_push (.inr hs)
      · -- The only other set is the one the new transition leads to.
        have hi : i = number := by
          rcases hsize with heq | ⟨hnumber, hsize⟩
          · exact absurd (heq ▸ hlt) hold
          · have hlt : i < found.found.sets.size := hlt
            omega
        subst hi
        exact exists_target_push (s := ⟨lo, stop - 1, i⟩) (.inl rfl)

/-- Every set that a sweep numbers is the target of one of its transitions. -/
theorem fresh_of_run {found : Subsets} {bs : List Boundary}
    (h : run nfa links limit { found } bs = .ok sweep') : sweep'.Fresh found.sets.size := by
  refine run_keeps (P := Fresh found.sets.size) ?_ ?_ ?_ h
  · exact fun _ _ hsweep => ⟨hsweep.base_le, hsweep.led⟩
  · exact fun _ _ _ _ hsweep hbetween => hsweep.between hbetween
  · refine ⟨Nat.le_refl _, fun i hi hlt => ?_⟩
    have hlt : i < found.sets.size := hlt
    omega

/-- No two transitions of a sweep could have been one. -/
theorem apart_of_run {found : Subsets} {bs : List Boundary}
    (h : run nfa links limit { found } bs = .ok sweep') : Apart sweep'.transitions := by
  refine run_keeps (P := fun sweep => Apart sweep.transitions) ?_ ?_ ?_ h
  · exact fun _ _ hsweep => hsweep
  · intro sweep sweep' lo stop hsweep hbetween
    unfold Sweep.between at hbetween
    split at hbetween
    · cases hbetween
      exact hsweep
    · obtain ⟨⟨number, found⟩, htarget, hbetween⟩ := ok_of_bind hbetween
      cases hbetween
      apply apart_push
      rwa [(target_size htarget).1]
  · exact List.isChain_nil

end Sweep

/-! ### All states -/

namespace Dfa

/-- A state that is not there has no transitions. -/
theorem mem_transitions_iff {dfa : Dfa} {state : Nat} {t : Transition} :
    t ∈ dfa.transitions state ↔ ∃ s, dfa.states[state]? = some s ∧ t ∈ s.transitions := by
  unfold transitions
  cases dfa.states[state]? with
  | none => simp
  | some s => simp

/-- A state that is added changes nothing about how the others are reached. -/
theorem Reached.push {states : Array DfaState} {new : DfaState} {state : Nat}
    (h : Reached ⟨states⟩ state) : Reached ⟨states.push new⟩ state := by
  induction h with
  | start => exact .start
  | @next state t _ ht ih =>
    obtain ⟨s, hs, ht⟩ := mem_transitions_iff.mp ht
    exact .next ih (mem_transitions_iff.mpr ⟨s, getElem?_push_of_getElem? hs, ht⟩)

/-- Every set that is found is led to from one that was explored before. -/
theorem reached_of_explore {fuel next : Nat} {found : Subsets} {states states' : Array DfaState}
    (hnext : next ≤ found.sets.size) (hsize : states.size = next)
    (hreached : ∀ i < found.sets.size, Reached ⟨states⟩ i)
    (h : explore nfa links limit fuel next found states = .ok states') :
    ∀ i < states'.size, Reached ⟨states'⟩ i := by
  induction fuel generalizing next found states with
  | zero =>
    cases h
    exact fun i hi => hreached i (by omega)
  | succ fuel ih =>
    rw [explore] at h
    split at h
    · cases h
      exact fun i hi => hreached i (by omega)
    · rename_i set hset
      obtain ⟨sweep, hrun, h⟩ := ok_of_bind h
      have hfresh := Sweep.fresh_of_run hrun
      have hnextlt := (Array.getElem?_eq_some_iff.mp hset).1
      refine ih (Nat.le_trans hnextlt hfresh.base_le) (by simp [hsize]) ?_ h
      intro i hi
      by_cases hold : i < found.sets.size
      · exact (hreached i hold).push
      · -- A new set is led to from the set that has just been explored.
        obtain ⟨t, ht, rfl⟩ := hfresh.led i (Nat.le_of_not_lt hold) hi
        refine .next (hreached next hnextlt).push (mem_transitions_iff.mpr ?_)
        exact ⟨_, hsize ▸ Array.getElem?_push_size, by simpa using ht⟩

/-- Exploring a state adds its sweep to the states explored before, so the transitions of all of them
are apart. -/
theorem apart_of_explore {fuel next : Nat} {found : Subsets} {states states' : Array DfaState}
    (hstates : ∀ s ∈ states, Apart s.transitions.toList.reverse)
    (h : explore nfa links limit fuel next found states = .ok states') :
    ∀ s ∈ states', Apart s.transitions.toList.reverse := by
  induction fuel generalizing next found states with
  | zero =>
    cases h
    exact hstates
  | succ fuel ih =>
    rw [explore] at h
    split at h
    · cases h
      exact hstates
    · obtain ⟨sweep, hrun, h⟩ := ok_of_bind h
      apply ih _ h
      intro s hs
      rcases Array.mem_push.mp hs with hs | rfl
      · exact hstates s hs
      · simpa using Sweep.apart_of_run hrun

/-- The states of an automaton: their transitions ascend, lie within the code points and lead to
states, those that touch lead to different states, and no state is out of reach. -/
structure WellFormed (dfa : Dfa) : Prop where
  ascending : ∀ state, (dfa.transitions state).toList.Pairwise fun a b => a.hi < b.lo
  proper : ∀ state, ∀ t ∈ dfa.transitions state, t.lo ≤ t.hi ∧ t.hi ≤ Alphabet.unicode.max
  target_lt : ∀ state, ∀ t ∈ dfa.transitions state, t.target < dfa.size
  apart : ∀ state, ∀ a ∈ dfa.transitions state, ∀ b ∈ dfa.transitions state,
    a.hi + 1 = b.lo → a.target ≠ b.target
  reached : ∀ state < dfa.size, dfa.Reached state

/-- Two transitions of a state that hold the same code point are the same. -/
theorem WellFormed.eq_of_contains {dfa : Dfa} {state n : Nat} {a b : Transition}
    (h : dfa.WellFormed) (ha : a ∈ dfa.transitions state) (hb : b ∈ dfa.transitions state)
    (han : a.lo ≤ n ∧ n ≤ a.hi) (hbn : b.lo ≤ n ∧ n ≤ b.hi) : a = b := by
  by_contra hne
  have hdisjoint : (dfa.transitions state).toList.Pairwise fun a b => a.hi < b.lo ∨ b.hi < a.lo :=
    (h.ascending state).imp .inl
  have : Std.Symm fun a b : Transition => a.hi < b.lo ∨ b.hi < a.lo := ⟨fun _ _ => Or.symm⟩
  rcases hdisjoint.forall (Array.mem_toList_iff.mpr ha) (Array.mem_toList_iff.mpr hb) hne
    with hlt | hlt
  · omega
  · omega

/-- The binary search takes the transition that holds the character, if there is one. -/
theorem step?_eq_some_iff {dfa : Dfa} (h : dfa.WellFormed) (state : Nat) (c : Char) (next : Nat) :
    dfa.step? state c = some next ↔
      ∃ t ∈ dfa.transitions state, t.lo ≤ c.toNat ∧ c.toNat ≤ t.hi ∧ t.target = next := by
  constructor
  · exact exists_transition
  · rintro ⟨t, ht, hlo, hhi, rfl⟩
    obtain ⟨next, hnext⟩ :=
      exists_step (h.ascending state) (fun t ht => (h.proper state t ht).1) ht hlo hhi
    obtain ⟨t', ht', hlo', hhi', rfl⟩ := exists_transition hnext
    rwa [h.eq_of_contains ht ht' ⟨hlo, hhi⟩ ⟨hlo', hhi'⟩]

/-- The same holds when all states are explored. -/
theorem apart_of_ofNfa {dfa : Dfa} (h : ofNfa nfa limit = .ok dfa) :
    ∀ s ∈ dfa.states, Apart s.transitions.toList.reverse := by
  obtain ⟨⟨number, found⟩, -, h⟩ := ok_of_bind h
  obtain ⟨states, hexplore, h⟩ := ok_of_bind h
  cases h
  exact apart_of_explore (by simp) hexplore

/-- A set gets its number from a transition to it, so every state is reached from the first. -/
theorem reached_of_ofNfa {dfa : Dfa} (h : ofNfa nfa limit = .ok dfa) :
    ∀ state < dfa.size, dfa.Reached state := by
  obtain ⟨⟨number, found⟩, hintern, h⟩ := ok_of_bind h
  obtain ⟨states, hexplore, h⟩ := ok_of_bind h
  cases h
  refine reached_of_explore (Nat.zero_le _) rfl (fun i hi => ?_) hexplore
  -- Only the set of the start is there at first.
  have hi : i = start := by
    rcases intern_size hintern with rfl | ⟨rfl, hsize⟩
    · exact absurd hi (Nat.not_lt_zero i)
    · rw [hsize] at hi
      exact Nat.lt_one_iff.mp hi
  rw [hi]
  exact .start

/-- The subset construction makes automata that are well formed, if the ranges that are read are those
of code points. -/
theorem wellFormed_of_ofNfa {dfa : Dfa}
    (hranges : Nfa.EveryRange (fun r => r.hi ≤ Alphabet.unicode.max) nfa.states)
    (h : ofNfa nfa limit = .ok dfa) : dfa.WellFormed := by
  obtain ⟨sets, -, hsize, hall, -⟩ := exploredBelow_of_ofNfa h
  -- Every transition stands in a state that is explored.
  have hswept {state : Nat} {s : DfaState} (hs : dfa.states[state]? = some s) : ∃ set last,
      Swept nfa set sets last s.transitions.toList.reverse := by
    have hlt : state < sets.size := hsize ▸ (Array.getElem?_eq_some_iff.mp hs).1
    obtain ⟨s', hs', hexplored⟩ := hall state hlt _ (Array.getElem?_eq_getElem hlt)
    obtain rfl := Option.some.inj (hs.symm.trans hs')
    obtain ⟨last, hswept⟩ := hexplored.swept
    exact ⟨_, last, hswept last (Nat.le_refl last)⟩
  have hmem {s : DfaState} {t} (ht : t ∈ s.transitions) : t ∈ s.transitions.toList.reverse :=
    List.mem_reverse.mpr (Array.mem_toList_iff.mpr ht)
  have hascending (state) : (dfa.transitions state).toList.Pairwise fun a b => a.hi < b.lo := by
    unfold transitions
    cases hs : dfa.states[state]? with
    | none => exact .nil
    | some s =>
      obtain ⟨set, last, hswept⟩ := hswept hs
      exact List.pairwise_reverse.mp hswept.sorted
  refine ⟨hascending, ?_, ?_, ?_, reached_of_ofNfa h⟩
  · intro state t ht
    obtain ⟨s, hs, ht⟩ := mem_transitions_iff.mp ht
    obtain ⟨set, last, hswept⟩ := hswept hs
    exact ⟨(hswept.proper t (hmem ht)).1, hswept.hi_le hranges (hmem ht)⟩
  · intro state t ht
    obtain ⟨s, hs, ht⟩ := mem_transitions_iff.mp ht
    obtain ⟨set, last, hswept⟩ := hswept hs
    rw [hsize]
    exact hswept.target_lt (hmem ht)
  · intro state a ha b hb htouch
    obtain ⟨s, hs, ha⟩ := mem_transitions_iff.mp ha
    obtain ⟨s', hs', hb⟩ := mem_transitions_iff.mp hb
    obtain rfl := Option.some.inj (hs.symm.trans hs')
    obtain ⟨set, last, hswept⟩ := hswept hs
    have hapart := apart_of_ofNfa h s (Array.mem_of_getElem? hs)
    exact hapart.target_ne hswept.sorted (fun t ht => (hswept.proper t ht).1) (hmem ha) (hmem hb) htouch

/-- So the automaton of an expression over code points is well formed. -/
theorem wellFormed_of_ofRegex {r : Regex} {dfa : Dfa} (hr : r.WithinUnicode)
    (h : ofRegex r limit = .ok dfa) : dfa.WellFormed := by
  obtain ⟨nfa, hnfa, h⟩ := ok_of_bind h
  refine wellFormed_of_ofNfa (Nfa.everyRange_of_ofRegex ?_ hr hnfa) h
  intro c
  have hc := c.toNat_le_max
  exact hc

/-- **The automaton of an expression is well formed.** Whenever the automaton of an expression is small
enough to be built, the transitions of each state are ascending, disjoint and proper ranges of code
points that lead to states, those that touch lead to different states, and transitions lead to every
state from the start. A step is the transition that holds the character, as a search through all of them
would find. -/
theorem ofRegex_representation {r : Regex} {dfa : Dfa} (hr : r.WithinUnicode)
    (h : ofRegex r limit = .ok dfa) :
    dfa.WellFormed ∧ ∀ (state : Nat) (c : Char) (next : Nat), dfa.step? state c = some next ↔
      ∃ t ∈ dfa.transitions state, t.lo ≤ c.toNat ∧ c.toNat ≤ t.hi ∧ t.target = next := by
  have hwellFormed := wellFormed_of_ofRegex hr h
  exact ⟨hwellFormed, step?_eq_some_iff hwellFormed⟩

/-- Two classes that overlap, after one of which an `x` is read. -/
theorem ofRegex_representation_of_overlap :
    let r : Regex := .alternation [.oneOf .unicode [.between 97 100],
      .concat [.oneOf .unicode [.between 99 102], .literal [120]]]
    let dfa : Dfa := ⟨#[⟨#[⟨97, 98, 1⟩, ⟨99, 100, 2⟩, ⟨101, 102, 3⟩], false⟩, ⟨#[], true⟩,
      ⟨#[⟨120, 120, 1⟩], true⟩, ⟨#[⟨120, 120, 1⟩], false⟩]⟩
    r.WithinUnicode ∧ ofRegex r 16 = .ok dfa ∧ dfa.WellFormed := by
  intro r dfa
  have hr : r.WithinUnicode := by
    simp [r, Regex.WithinUnicode, Regex.EveryRange, Regex.AllEveryRange, CodeRange.between,
      Alphabet.max]
  have h : ofRegex r 16 = .ok dfa := by cbv
  exact ⟨hr, h, (ofRegex_representation hr h).1⟩

end Dfa

end GramSieve.Automaton
