import GramSieve.Proofs.Automaton.StateCount
import GramSieve.Proofs.Automaton.Transitions
import Mathlib

namespace GramSieve.Automaton

/-!
# How many states a deterministic automaton has

* `Nfa.ReachedSet` — the sets of states that the subset construction is about.
* `Subsets.Catalog` — what is numbered are closures, of which there are only so many.
* `Dfa.exists_guarded_explore`, `Dfa.exists_eq_ofNfa` — the limit decides whether there is an automaton,
  and not which one.
* `Dfa.encard_reachedSet` — the automaton has one state for each reached set.
* `Dfa.ofRegex_guarded` — which limits allow the automaton of an expression.
-/

open Subsets

namespace Nfa

/-- What matters among the states that are reached from some states without reading. -/
def closureOf (nfa : Nfa) (seeds : Set Nat) : Set Nat :=
  {x | nfa.isImportant x ∧ ∃ q ∈ seeds, nfa.Reaches q x}

/-- The states that are reached by reading a code point in one of some states. -/
def after (nfa : Nfa) (set : Set Nat) (n : Nat) : Set Nat :=
  {t | ∃ q ∈ set, ∃ s, nfa.states[q]? = some s ∧ s.ranges.contains n ∧ s.next = t}

/-- The sets of states that are reached: the closure of the start, and the closure of what is reached
by reading a code point in such a set, as long as there is something. -/
inductive ReachedSet (nfa : Nfa) : Set Nat → Prop
  | start : ReachedSet nfa (nfa.closureOf {nfa.start})
  | next {set : Set Nat} {n : Nat} (h : ReachedSet nfa set) (hn : (nfa.after set n).Nonempty) :
      ReachedSet nfa (nfa.closureOf (nfa.after set n))

variable {nfa : Nfa}

/-- As a set, the closure of some states does not depend on their order. -/
theorem setOf_mem_closure (seeds : List Nat) :
    {x | x ∈ nfa.closure nfa.linkCount seeds} = nfa.closureOf {x | x ∈ seeds} :=
  Set.ext fun _ => mem_closure

/-- The targets that a code point leads to make up the set behind it. -/
theorem after_eq_of_leads {set targets : List Nat} {n : Nat}
    (h : ∀ target, target ∈ targets ↔ nfa.Leads set n target) :
    nfa.after {x | x ∈ set} n = {x | x ∈ targets} :=
  Set.ext fun target => (h target).symm

/-- A closure is a choice among the states. -/
theorem finite_range_closure : (Set.range (nfa.closure nfa.linkCount)).Finite := by
  have hstates : (insert nfa.accept (Set.Iio nfa.states.size)).Finite :=
    (Set.finite_Iio _).insert _
  refine Set.Finite.of_injOn (f := fun set => {x | x ∈ set}) ?_ ?_ hstates.finite_subsets
  · rintro _ ⟨seeds, rfl⟩ x hx
    have himportant := (mem_closure.mp hx).1
    rw [isImportant, Bool.or_eq_true, beq_iff_eq] at himportant
    rcases himportant with rfl | hany
    · exact Set.mem_insert ..
    · obtain ⟨s, hs, -⟩ := (Option.any_eq_true ..).mp hany
      exact Set.mem_insert_of_mem _ (Array.getElem?_eq_some_iff.mp hs).1
  · -- A closure lists its states in one order only.
    rintro _ ⟨seeds, rfl⟩ _ ⟨seeds', rfl⟩ heq
    exact closure_eq_of_mem_iff fun x => Set.ext_iff.mp heq x

end Nfa

variable {nfa : Nfa}

/-! ### The walk through the sets -/

/-- The numbers are those of the sets, all of which are closures. -/
structure Subsets.Catalog (nfa : Nfa) (found : Subsets) : Prop where
  numbered : Numbers (fun set => found.numbers[set]?) found.sets
  closures : ∀ set ∈ found.sets, set ∈ Set.range (nfa.closure nfa.linkCount)

/-- Nothing is numbered at the start. -/
theorem Subsets.catalog_empty (nfa : Nfa) : ({} : Subsets).Catalog nfa :=
  ⟨by simp [Numbers], by simp⟩

/-- There are no more numbers than sets of states that can be reached. -/
theorem Subsets.Catalog.size_le {found : Subsets} (h : found.Catalog nfa) :
    found.sets.size ≤ (Set.range (nfa.closure nfa.linkCount)).ncard :=
  h.numbered.size_le Nfa.finite_range_closure h.closures

/-- Looking up a set, or giving it a number, fails only at the limit for the sets. -/
theorem Subsets.Catalog.exists_guarded_intern {found : Subsets} (h : found.Catalog nfa)
    (seeds : List Nat) : ∃ result : Nat × Subsets, result.2.Catalog nfa ∧
      Guarded TooManyStates.mk (·.2.sets.size) found.sets.size
        (fun limit => found.intern limit (nfa.closure nfa.linkCount seeds)) result := by
  cases hnumber : found.numbers[nfa.closure nfa.linkCount seeds]? with
  | some number =>
    simp only [intern, hnumber]
    exact ⟨(number, found), h, guarded_ok _ _ (number, found)⟩
  | none =>
    simp only [intern, hnumber]
    -- The result is the same whatever the limit is; only whether there is room for it depends on
    -- that.
    refine ⟨(found.sets.size, ⟨found.sets.push (nfa.closure nfa.linkCount seeds),
      found.numbers.insert (nfa.closure nfa.linkCount seeds) found.sets.size⟩),
      ⟨?_, ?_⟩, guarded_add (Array.size_push _)⟩
    · apply h.numbered.push hnumber
      intro other
      simp only [Std.HashMap.getElem?_insert, beq_iff_eq]
    · intro set hset
      rcases Array.mem_push.mp hset with hset | rfl
      · exact h.closures set hset
      · exact ⟨seeds, rfl⟩

namespace Sweep

/-- So does looking up where the open targets lead, which is done once in a sweep for the same
targets. -/
theorem exists_guarded_target (sweep : Sweep) (h : sweep.found.Catalog nfa) (key : List Nat) :
    ∃ result : Nat × Sweep, result.2.found.Catalog nfa ∧
      Guarded TooManyStates.mk (·.2.found.sets.size) sweep.found.sets.size
        (fun limit => sweep.target nfa nfa.linkCount limit key) result := by
  cases hknown : sweep.known[key]? with
  | some number =>
    simp only [target, hknown]
    exact ⟨(number, sweep), h, guarded_ok _ _ (number, sweep)⟩
  | none =>
    simp only [target, hknown]
    obtain ⟨⟨number, found⟩, hfound, hguarded⟩ := h.exists_guarded_intern key
    exact ⟨(number, { sweep with found, known := sweep.known.insert key number }), hfound,
      hguarded.map _
        (fun r => (r.1, { sweep with found := r.2, known := sweep.known.insert key r.1 })) rfl⟩

/-- A stretch between two boundaries looks up one set at most. -/
theorem exists_guarded_between (sweep : Sweep) (h : sweep.found.Catalog nfa) (lo stop : Nat) :
    ∃ result : Sweep, result.found.Catalog nfa ∧
      Guarded TooManyStates.mk (·.found.sets.size) sweep.found.sets.size
        (fun limit => sweep.between nfa nfa.linkCount limit lo stop) result := by
  unfold between
  split
  · exact ⟨sweep, h, guarded_ok _ _ sweep⟩
  · obtain ⟨⟨number, found⟩, hfound, hguarded⟩ := exists_guarded_target sweep h sweep.active.keys
    exact ⟨{ found with transitions := push ⟨lo, stop - 1, number⟩ found.transitions }, hfound,
      hguarded.map _
        (fun r => { r.2 with transitions := push ⟨lo, stop - 1, r.1⟩ r.2.transitions }) rfl⟩

/-- A sweep fails only if the stretches that it passes need more sets than the limit allows. -/
theorem exists_guarded_run (sweep : Sweep) (h : sweep.found.Catalog nfa) (bs : List Boundary) :
    ∃ result : Sweep, result.found.Catalog nfa ∧
      Guarded TooManyStates.mk (·.found.sets.size) sweep.found.sets.size
        (fun limit => run nfa nfa.linkCount limit sweep bs) result := by
  induction bs generalizing sweep with
  | nil =>
    simp only [run]
    exact ⟨sweep, h, guarded_ok _ _ sweep⟩
  | cons b rest ih =>
    cases rest with
    | nil =>
      simp only [run]
      refine ⟨{ sweep with active := sweep.active.cross b }, h, ?_⟩
      exact guarded_ok _ (fun sweep : Sweep => sweep.found.sets.size)
        { sweep with active := sweep.active.cross b }
    | cons next rest =>
      simp only [run]
      split
      -- Between boundaries at the same point there is no stretch to look at.
      · exact ih { sweep with active := sweep.active.cross b } h
      · obtain ⟨crossed, hcrossed, hfirst⟩ := exists_guarded_between
          { sweep with active := sweep.active.cross b } h b.point next.point
        obtain ⟨result, hresult, hrest⟩ := ih crossed hcrossed
        exact ⟨result, hresult, hfirst.bind _ hrest⟩

end Sweep

namespace Dfa

/-- Each turn explores the next set, and there are only so many closures to find. -/
theorem exists_guarded_explore (found : Subsets) (states : Array DfaState)
    (hfound : found.Catalog nfa) (hle : states.size ≤ found.sets.size) :
    ∃ states', Guarded TooManyStates.mk Array.size found.sets.size (fun limit =>
      explore nfa nfa.linkCount limit (limit - states.size) states.size found states) states' := by
  refine exists_guarded_walk (P := fun s => s.1.Catalog nfa ∧ s.2.size ≤ s.1.sets.size)
    (s := (found, states))
    (fun limit s => explore nfa nfa.linkCount limit (limit - s.2.size) s.2.size s.1 s.2)
    (·.1.sets.size) (·.2.size) (Set.range (nfa.closure nfa.linkCount)).ncard ?_ ?_ ?_ ⟨hfound, hle⟩
  · exact fun s hs => ⟨hs.2, hs.1.size_le⟩
  · rintro ⟨found, states⟩ - heq
    change states.size = found.sets.size at heq
    have hnone : found.sets[states.size]? = none := Array.getElem?_eq_none_iff.mpr heq.ge
    have h := guarded_ok TooManyStates.mk Array.size states
    rw [heq] at h
    refine ⟨states, h.congr fun limit _ => ?_⟩
    unfold explore
    split
    · rfl
    · rw [hnone]
  · rintro ⟨found, states⟩ ⟨hfound, -⟩ hlt
    change states.size < found.sets.size at hlt
    have hset := Array.getElem?_eq_getElem hlt
    obtain ⟨sweep, hsweep, hrun⟩ := Sweep.exists_guarded_run { found } hfound
      (nfa.boundaries found.sets[states.size])
    refine ⟨_, _, ?_, ?_, hrun.map _ (fun sweep => (sweep.found, states.push
      ⟨sweep.transitions.reverse.toArray,
        containsSorted found.sets[states.size].toArray nfa.accept⟩)) rfl, fun limit hlimit => ?_⟩
    · refine ⟨hsweep, ?_⟩
      rw [Array.size_push]
      exact Nat.lt_of_lt_of_le hlt hrun.le
    · exact Array.size_push _
    · -- There is room for the set, and therefore a turn for it.
      obtain ⟨fuel, hfuel⟩ : ∃ fuel, limit - states.size = fuel + 1 :=
        ⟨limit - states.size - 1, by have : found.sets.size ≤ limit := hlimit; omega⟩
      have hpush : limit - (states.size + 1) = fuel := by omega
      simp only [hfuel, explore, hset, bind_assoc, ok_bind, Array.size_push, hpush]

/-- There is one automaton, and every limit that it fits into allows it. -/
theorem exists_eq_ofNfa (nfa : Nfa) : ∃ dfa : Dfa, ∀ limit,
    ofNfa nfa limit = if limit < dfa.size then .error ⟨limit⟩ else .ok dfa := by
  obtain ⟨⟨number, found⟩, hfound, hintern⟩ :=
    (catalog_empty nfa).exists_guarded_intern [nfa.start]
  obtain ⟨states, hexplore⟩ := exists_guarded_explore found #[] hfound (Nat.zero_le _)
  have hall := hintern.bind
    (fun limit r => explore nfa nfa.linkCount limit (limit - 0) 0 r.2 #[]) hexplore
  refine ⟨⟨states⟩, fun limit => ?_⟩
  have hall := (hall.map size Dfa.mk rfl).eq limit (Nat.zero_le limit)
  rw [← hall]
  simp only [ofNfa, bind_assoc]
  rfl

/-! ### The sets that are reached -/

section ReachedSet

variable {sets : Array (List Nat)} {dfa : Dfa}

/-- A state that is reached has a set that is reached. -/
theorem exists_reachedSet (hall : ExploredBelow nfa sets sets.size dfa.states)
    (hstart : sets[start]? = some (nfa.closure nfa.linkCount [nfa.start])) {state : Nat}
    (h : dfa.Reached state) : ∃ seeds, sets[state]? = some (nfa.closure nfa.linkCount seeds) ∧
      nfa.ReachedSet (nfa.closureOf {x | x ∈ seeds}) := by
  induction h with
  | start =>
    refine ⟨_, hstart, ?_⟩
    simpa using Nfa.ReachedSet.start
  | @next state t _ ht ih =>
    obtain ⟨seeds, hset, hreached⟩ := ih
    obtain ⟨s, hs, hexplored⟩ := hall state (Array.getElem?_eq_some_iff.mp hset).1 _ hset
    obtain ⟨s', hs', ht⟩ := mem_transitions_iff.mp ht
    obtain rfl := Option.some.inj (hs.symm.trans hs')
    obtain ⟨last, hswept⟩ := hexplored.swept
    have hswept := hswept last (Nat.le_refl last)
    have ht : t ∈ s.transitions.toList.reverse := List.mem_reverse.mpr (Array.mem_toList_iff.mpr ht)
    -- All code points of a transition lead to the same set, so the first one is read.
    obtain ⟨targets, hne, htarget, htargets⟩ :=
      hswept.sound t ht t.lo (Nat.le_refl _) (hswept.proper t ht).1
    have hafter : nfa.after (nfa.closureOf {x | x ∈ seeds}) t.lo = {x | x ∈ targets} := by
      rw [← Nfa.setOf_mem_closure, Nfa.after_eq_of_leads htargets]
    refine ⟨targets, htarget, ?_⟩
    rw [← hafter]
    refine hreached.next ?_
    rw [hafter]
    exact List.exists_mem_of_ne_nil targets hne

/-- A set that is reached is that of a state. -/
theorem exists_mem_of_reachedSet (hall : ExploredBelow nfa sets sets.size dfa.states)
    (hstart : sets[start]? = some (nfa.closure nfa.linkCount [nfa.start])) {set : Set Nat}
    (h : nfa.ReachedSet set) :
    ∃ seeds, nfa.closure nfa.linkCount seeds ∈ sets ∧ nfa.closureOf {x | x ∈ seeds} = set := by
  induction h with
  | start => exact ⟨[nfa.start], Array.mem_of_getElem? hstart, by simp⟩
  | @next set n _ hn ih =>
    obtain ⟨seeds, hmem, rfl⟩ := ih
    obtain ⟨i, hset⟩ := Array.mem_iff_getElem?.mp hmem
    obtain ⟨s, hs, hexplored⟩ := hall i (Array.getElem?_eq_some_iff.mp hset).1 _ hset
    obtain ⟨last, hswept⟩ := hexplored.swept
    -- The sweep is complete below any point behind its last boundary, so `n` must be below as well.
    have hswept := hswept (max last (n + 1)) (Nat.le_max_left ..)
    rw [← Nfa.setOf_mem_closure] at hn ⊢
    obtain ⟨target, hleads⟩ := hn
    obtain ⟨t, ht, hlo, hhi⟩ := hswept.complete n
      (Nat.lt_of_lt_of_le (Nat.lt_succ_self n) (Nat.le_max_right ..)) target hleads
    obtain ⟨targets, -, htarget, htargets⟩ := hswept.sound t ht n hlo hhi
    exact ⟨targets, Array.mem_of_getElem? htarget, by rw [Nfa.after_eq_of_leads htargets]⟩

end ReachedSet

/-- The automaton has one state for each set that is reached. -/
theorem encard_reachedSet {limit : Nat} {dfa : Dfa} (h : ofNfa nfa limit = .ok dfa) :
    {set | nfa.ReachedSet set}.encard = dfa.size := by
  obtain ⟨sets, hnodup, hsize, hall, hstart⟩ := exploredBelow_of_ofNfa h
  have hclosures (set) (hset : set ∈ sets) : ∃ seeds, set = nfa.closure nfa.linkCount seeds ∧
      nfa.ReachedSet (nfa.closureOf {x | x ∈ seeds}) := by
    obtain ⟨i, hi⟩ := Array.mem_iff_getElem?.mp hset
    have hlt : i < dfa.size := hsize ▸ (Array.getElem?_eq_some_iff.mp hi).1
    obtain ⟨seeds, hseeds, hreached⟩ := exists_reachedSet hall hstart (reached_of_ofNfa h i hlt)
    exact ⟨seeds, Option.some.inj (hi.symm.trans hseeds), hreached⟩
  -- The sets that are reached are those that were numbered, and a closure is given by what is in it,
  -- so different numbers belong to different sets.
  have himage : {set | nfa.ReachedSet set} = (fun set => {x | x ∈ set}) '' {set | set ∈ sets} := by
    ext set
    constructor
    · intro hreached
      obtain ⟨seeds, hmem, rfl⟩ := exists_mem_of_reachedSet hall hstart hreached
      exact ⟨_, hmem, Nfa.setOf_mem_closure seeds⟩
    · rintro ⟨list, hmem, rfl⟩
      obtain ⟨seeds, rfl, hreached⟩ := hclosures list hmem
      rw [← Nfa.setOf_mem_closure] at hreached
      exact hreached
  have hinjective : Set.InjOn (fun set : List Nat => {x | x ∈ set}) {set | set ∈ sets} := by
    intro list hlist list' hlist' heq
    obtain ⟨seeds, rfl, -⟩ := hclosures list hlist
    obtain ⟨seeds', rfl, -⟩ := hclosures list' hlist'
    exact Nfa.closure_eq_of_mem_iff fun x => Set.ext_iff.mp heq x
  rw [himage, hinjective.encard_image, hsize]
  exact encard_eq_size hnodup fun _ => Iff.rfl

/-! ### The limits of an expression -/

/-- More deterministic states come with more room for the automaton before them. -/
theorem nfaLimit_mono {limit larger : Nat} (h : limit ≤ larger) : nfaLimit limit ≤ nfaLimit larger := by
  unfold nfaLimit
  omega

/-- There is always room for more states before than after the construction, up to the largest limit. -/
theorem lt_nfaLimit {limit : Nat} (h : limit < maxLimit) : limit < nfaLimit limit := by
  unfold nfaLimit
  omega

/-- **The limit only guards.** The nondeterministic automaton of an expression, with counted repetitions
copied out, and the sets of its states that are reached decide which limits allow a deterministic
automaton: those that leave room for all states and for all sets. Otherwise there is an error with the
limit that does not. The states come first, and their limit is a larger one, unless both are the
greatest there is. There is only one automaton, with a state for each set, so that a larger limit changes
nothing. -/
theorem ofRegex_guarded (r : Regex) : ∃ (nfa : Nfa) (dfa : Dfa),
    (∀ limit, Nfa.ofRegex r limit = if limit < r.stateCount then .error ⟨limit⟩ else .ok nfa) ∧
      nfa.states.size = r.stateCount ∧
      {set | nfa.ReachedSet set}.encard = dfa.size ∧
      (∀ limit, ofRegex r limit =
        if nfaLimit limit < r.stateCount then .error ⟨nfaLimit limit⟩
        else if limit < dfa.size then .error ⟨limit⟩ else .ok dfa) ∧
      (∀ limit < maxLimit,
        ofRegex r limit = .error ⟨nfaLimit limit⟩ ↔ nfaLimit limit < r.stateCount) ∧
      ∀ limit larger result, limit ≤ larger →
        ofRegex r limit = .ok result → ofRegex r larger = .ok result := by
  obtain ⟨nfa, hstates, hnfa⟩ := Nfa.exists_eq_ofRegex r
  obtain ⟨dfa, hdfa⟩ := exists_eq_ofNfa nfa
  have hofRegex (limit : Nat) : ofRegex r limit =
      if nfaLimit limit < r.stateCount then .error ⟨nfaLimit limit⟩
      else if limit < dfa.size then .error ⟨limit⟩ else .ok dfa := by
    rw [ofRegex, hnfa]
    split
    · rfl
    · rw [ok_bind, hdfa]
  have hroom : ofNfa nfa dfa.size = .ok dfa := by
    rw [hdfa, if_neg (Nat.lt_irrefl _)]
  refine ⟨nfa, dfa, hnfa, hstates, encard_reachedSet hroom, hofRegex, ?_, ?_⟩
  · intro limit hlimit
    rw [hofRegex]
    split
    · rename_i hstates
      exact ⟨fun _ => hstates, fun _ => rfl⟩
    · rename_i hstates
      refine ⟨fun herror => ?_, fun h => absurd h hstates⟩
      -- The error that remains is that of the sets, and its limit is another one.
      have hlt := lt_nfaLimit hlimit
      split at herror
      · injection herror with herror
        injection herror with heq
        omega
      · cases herror
  · intro limit larger result hle h
    have hmono := nfaLimit_mono hle
    rw [hofRegex] at h ⊢
    split at h
    · cases h
    · split at h
      · cases h
      · cases h
        rw [if_neg (by omega), if_neg (by omega)]

end Dfa

end GramSieve.Automaton
