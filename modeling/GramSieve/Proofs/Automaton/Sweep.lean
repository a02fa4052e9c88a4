import GramSieve.Proofs.Automaton.OpenTargets
import GramSieve.Proofs.Basic

namespace GramSieve.Automaton

/-!
# Sweeps over the boundaries of a set of states

* `Subsets.Numbered`, `Subsets.intern_ok` — the numbers of sets stay right while sets are added.
* `Swept` — the transitions up to a code point lead to the closures of what is read there.
* `Sweep.between_ok` — one more stretch between two boundary points.
* `Sweep.run_ok`, `swept_of_run` — the transitions of a whole set of states.
-/

variable {nfa : Nfa} {limit : Nat}

/-! ### Numbers of sets -/

namespace Subsets

/-- The numbers are those of the sets, of which there are not too many. -/
structure Numbered (found : Subsets) (limit : Nat) : Prop where
  numbered : Numbers (fun set => found.numbers[set]?) found.sets
  size_le : found.sets.size ≤ limit

/-- Sets were added behind those that were there. -/
def Grows (before after : Array (List Nat)) : Prop :=
  ∀ (i : Nat) (set : List Nat), before[i]? = some set → after[i]? = some set

theorem Grows.refl (sets : Array (List Nat)) : Grows sets sets := fun _ _ h => h

theorem Grows.trans {a b c : Array (List Nat)} (first : Grows a b) (second : Grows b c) :
    Grows a c := fun i set h => second i set (first i set h)

/-- A new set gets a number behind all others, which keep theirs. -/
theorem grows_push (sets : Array (List Nat)) (set : List Nat) : Grows sets (sets.push set) :=
  fun _ _ h => getElem?_push_of_getElem? h

/-- A set that is looked up has its number from then on, and the numbers of other sets are kept. -/
theorem intern_ok {found found' : Subsets} {set : List Nat} {number : Nat}
    (hfound : found.Numbered limit) (h : found.intern limit set = .ok (number, found')) :
    found'.Numbered limit ∧ Grows found.sets found'.sets ∧ found'.sets[number]? = some set := by
  unfold intern at h
  split at h
  · rename_i n hn
    cases h
    exact ⟨hfound, .refl _, (hfound.numbered _ _).mp hn⟩
  · rename_i hnone
    simp only at h
    split at h
    · cases h
    · rename_i hlt
      cases h
      -- The set is new, and there was room for it.
      refine ⟨⟨hfound.numbered.push hnone fun other => ?_, by rw [Array.size_push]; omega⟩,
        grows_push _ _, Array.getElem?_push_size⟩
      simp only [Std.HashMap.getElem?_insert, beq_iff_eq]

end Subsets

open Subsets

/-! ### Transitions -/

/-- The transitions, last one first, of the code points below `stop`: each leads to the closure of
the states that its code points lead to, of which there are some, and none is missing. -/
structure Swept (nfa : Nfa) (set : List Nat) (sets : Array (List Nat)) (stop : Nat)
    (ts : List Transition) : Prop where
  sorted : ts.Pairwise fun later earlier => earlier.hi < later.lo
  proper : ∀ t ∈ ts, t.lo ≤ t.hi ∧ t.hi < stop
  sound : ∀ t ∈ ts, ∀ n, t.lo ≤ n → n ≤ t.hi → ∃ targets, targets ≠ [] ∧
    sets[t.target]? = some (nfa.closure nfa.linkCount targets) ∧
      ∀ target, target ∈ targets ↔ nfa.Leads set n target
  complete : ∀ n < stop, ∀ target, nfa.Leads set n target → ∃ t ∈ ts, t.lo ≤ n ∧ n ≤ t.hi

variable {set : List Nat} {sets sets' : Array (List Nat)} {lo stop : Nat} {ts : List Transition}

/-- Transitions that lead to a set by its number still do when more sets have numbers. -/
theorem Swept.grows (h : Swept nfa set sets stop ts) (hgrows : Grows sets sets') :
    Swept nfa set sets' stop ts where
  sorted := h.sorted
  proper := h.proper
  sound t ht n hlo hhi := by
    obtain ⟨targets, hne, hset, htargets⟩ := h.sound t ht n hlo hhi
    exact ⟨targets, hne, hgrows _ _ hset, htargets⟩
  complete := h.complete

/-- Nothing is read from one code point to another. -/
theorem Swept.skip (h : Swept nfa set sets lo ts) (hle : lo ≤ stop)
    (hnone : ∀ n, lo ≤ n → n < stop → ∀ target, ¬ nfa.Leads set n target) :
    Swept nfa set sets stop ts where
  sorted := h.sorted
  proper t ht := ⟨(h.proper t ht).1, by have := (h.proper t ht).2; omega⟩
  sound := h.sound
  complete n hn target hleads := by
    by_cases hlo : n < lo
    · exact h.complete n hlo target hleads
    · exact absurd hleads (hnone n (by omega) hn target)

/-- The same states are reached from one code point to another. -/
theorem Swept.push (h : Swept nfa set sets lo ts) (hlt : lo < stop) {number : Nat}
    {targets : List Nat} (hne : targets ≠ [])
    (hnumber : sets[number]? = some (nfa.closure nfa.linkCount targets))
    (htargets : ∀ n, lo ≤ n → n < stop → ∀ target, target ∈ targets ↔ nfa.Leads set n target) :
    Swept nfa set sets stop (Sweep.push ⟨lo, stop - 1, number⟩ ts) := by
  have hnew : Swept nfa set sets stop (⟨lo, stop - 1, number⟩ :: ts) := by
    refine ⟨List.pairwise_cons.mpr ⟨fun t ht => (h.proper t ht).2, h.sorted⟩, ?_, ?_, ?_⟩
    · rintro t (_ | ⟨_, ht⟩)
      · exact ⟨by simp only; omega, by simp only; omega⟩
      · exact ⟨(h.proper t ht).1, by have := (h.proper t ht).2; omega⟩
    · rintro t (_ | ⟨_, ht⟩) n hlo hhi
      · exact ⟨targets, hne, hnumber, htargets n hlo (by simp only at hhi; omega)⟩
      · exact h.sound t ht n hlo hhi
    · intro n hn target hleads
      by_cases hlo : n < lo
      · obtain ⟨t, ht, hn⟩ := h.complete n hlo target hleads
        exact ⟨t, .tail _ ht, hn⟩
      · exact ⟨_, .head _, by simp only; omega, by simp only; omega⟩
  unfold Sweep.push
  split
  · rename_i last before
    split
    · -- The last two transitions become one.
      rename_i hcond
      simp only [Bool.and_eq_true, decide_eq_true_eq] at hcond
      obtain ⟨heq, htouch⟩ := hcond
      have hlast := List.pairwise_cons.mp hnew.sorted
      have hbefore := List.pairwise_cons.mp hlast.2
      have hproper := h.proper last (.head _)
      refine ⟨List.pairwise_cons.mpr ⟨hbefore.1, hbefore.2⟩, ?_, ?_, ?_⟩
      · rintro t (_ | ⟨_, ht⟩)
        · exact ⟨by simp only; omega, by simp only; omega⟩
        · exact hnew.proper t (.tail _ (.tail _ ht))
      · rintro t (_ | ⟨_, ht⟩) n hlo hhi
        · by_cases hn : n ≤ last.hi
          · exact hnew.sound last (.tail _ (.head _)) n hlo hn
          · rw [heq]
            exact hnew.sound _ (.head _) n (by simp only; omega) hhi
        · exact hnew.sound t (.tail _ (.tail _ ht)) n hlo hhi
      · intro n hn target hleads
        obtain ⟨t, ht, hlo, hhi⟩ := hnew.complete n hn target hleads
        obtain _ | ⟨_, _ | ⟨_, ht⟩⟩ := ht
        · exact ⟨_, .head _, by simp only at hlo ⊢; omega, hhi⟩
        · exact ⟨_, .head _, hlo, by simp only; omega⟩
        · exact ⟨t, .tail _ ht, hlo, hhi⟩
    · exact hnew
  · exact hnew

/-! ### The sweep -/

namespace Sweep

/-- What a sweep knows about the numbers of sets is right. -/
structure Sound (nfa : Nfa) (limit : Nat) (sweep : Sweep) : Prop where
  numbered : sweep.found.Numbered limit
  known : ∀ (targets : List Nat) (number : Nat), sweep.known[targets]? = some number →
    sweep.found.sets[number]? = some (nfa.closure nfa.linkCount targets)

/-- The number that is looked up for the open targets is that of their closure, and apart from the
numbers nothing changes. -/
theorem target_ok {sweep sweep' : Sweep} {targets : List Nat} {number : Nat}
    (hsound : sweep.Sound nfa limit)
    (h : sweep.target nfa nfa.linkCount limit targets = .ok (number, sweep')) :
    sweep'.Sound nfa limit ∧ Grows sweep.found.sets sweep'.found.sets ∧
      sweep'.active = sweep.active ∧ sweep'.transitions = sweep.transitions ∧
      sweep'.found.sets[number]? = some (nfa.closure nfa.linkCount targets) := by
  unfold target at h
  split at h
  · rename_i n hn
    cases h
    exact ⟨hsound, .refl _, rfl, rfl, hsound.known _ _ hn⟩
  · obtain ⟨⟨n, found⟩, hintern, h⟩ := ok_of_bind h
    cases h
    obtain ⟨hnumbered, hgrows, hset⟩ := intern_ok hsound.numbered hintern
    refine ⟨⟨hnumbered, fun key n' hn' => ?_⟩, hgrows, rfl, rfl, hset⟩
    -- The number is kept for the next time that the same targets are open.
    rw [Std.HashMap.getElem?_insert] at hn'
    split at hn'
    · rename_i heq
      cases hn'
      rw [← LawfulBEq.eq_of_beq heq]
      exact hset
    · exact hgrows _ _ (hsound.known _ _ hn')

/-- If the open targets are those that the stretch between two boundaries leads to, the transitions
are right up to the second boundary. -/
theorem between_ok {sweep sweep' : Sweep} (hsound : sweep.Sound nfa limit) (hlt : lo < stop)
    (hswept : Swept nfa set sweep.found.sets lo sweep.transitions)
    (hactive : ∀ n, lo ≤ n → n < stop → ∀ target,
      target ∈ sweep.active.keys ↔ nfa.Leads set n target)
    (h : sweep.between nfa nfa.linkCount limit lo stop = .ok sweep') :
    sweep'.Sound nfa limit ∧ Grows sweep.found.sets sweep'.found.sets ∧
      sweep'.active = sweep.active ∧ Swept nfa set sweep'.found.sets stop sweep'.transitions := by
  unfold between at h
  split at h
  · rename_i hempty
    cases h
    refine ⟨hsound, .refl _, rfl, hswept.skip (by omega) fun n hlo hn target hleads => ?_⟩
    -- Where nothing is open, nothing is led to, and no transition is needed.
    have hmem := (hactive n hlo hn target).mpr hleads
    rw [Std.TreeMap.mem_keys] at hmem
    rw [Std.TreeMap.isEmpty_eq_false_iff_exists_mem.mpr ⟨target, hmem⟩] at hempty
    cases hempty
  · rename_i hopen
    obtain ⟨⟨number, found⟩, htarget, h⟩ := ok_of_bind h
    cases h
    obtain ⟨hsound', hgrows, hactive', hts, hnumber⟩ := target_ok hsound htarget
    have hne : sweep.active.keys ≠ [] := by
      rwa [ne_eq, ← List.isEmpty_iff, Std.TreeMap.isEmpty_keys]
    refine ⟨⟨hsound'.numbered, hsound'.known⟩, hgrows, hactive', ?_⟩
    rw [hts]
    exact (hswept.grows hgrows).push hlt hne hnumber hactive

/-- A sweep over the boundaries from `b` on finds the transitions behind it. -/
theorem run_ok {done rest : List Boundary} {b : Boundary} {sweep sweep' : Sweep}
    (hsound : sweep.Sound nfa limit) (hsplit : nfa.boundaries set = done ++ b :: rest)
    (htracks : sweep.active.Tracks done)
    (hswept : Swept nfa set sweep.found.sets b.point sweep.transitions)
    (h : run nfa nfa.linkCount limit sweep (b :: rest) = .ok sweep') :
    sweep'.found.Numbered limit ∧ Grows sweep.found.sets sweep'.found.sets ∧
      ∃ last, ∀ stop ≥ last, Swept nfa set sweep'.found.sets stop sweep'.transitions := by
  -- The boundaries that were crossed are `done`. The transitions are right up to the point of `b`.
  induction rest generalizing done b sweep with
  | nil =>
    obtain ⟨hpassed, -⟩ := points_of_split hsplit
    rw [run] at h
    cases h
    refine ⟨hsound.numbered, .refl _, b.point, fun stop hstop => hswept.skip hstop ?_⟩
    intro n hn _ target hleads
    -- Behind the last boundary nothing is led to any more, as every range has ended.
    obtain ⟨x, hx, hlt⟩ := hleads.exists_boundaries.2
    rw [hsplit] at hx
    obtain hx | hx := List.mem_append.mp hx
    · have := hpassed x hx
      omega
    · rw [List.mem_singleton.mp hx] at hlt
      omega
  | cons next rest ih =>
    have hcross := htracks.cross hsplit
    have hsound' : Sound nfa limit { sweep with active := sweep.active.cross b } :=
      ⟨hsound.numbered, hsound.known⟩
    obtain ⟨hpassed, hnext⟩ := points_of_split hsplit
    have hpoints := hnext next (.head _)
    rw [← List.singleton_append, ← List.append_assoc] at hsplit
    obtain ⟨-, hahead⟩ := points_of_split hsplit
    rw [run] at h
    split at h
    · rename_i hpoint
      rw [hpoint] at hswept
      have hrest := ih hsound' hsplit hcross hswept h
      exact hrest
    · rename_i hne
      have hlt : b.point < next.point := by omega
      obtain ⟨crossed, hbetween, h⟩ := ok_of_bind h
      have hactive (n) (hlo : b.point ≤ n) (hn : n < next.point) (target) :
          target ∈ (sweep.active.cross b).keys ↔ nfa.Leads set n target := by
        -- Up to the next point, what is open is what the crossed boundaries have opened and not
        -- closed.
        rw [hcross.mem_keys, Nfa.leads_iff_opened hsplit]
        · intro x hx
          obtain hx | hx := List.mem_append.mp hx
          · exact Nat.le_trans (hpassed x hx) hlo
          · rwa [List.mem_singleton.mp hx]
        · rintro x (_ | ⟨_, hx⟩)
          · exact hn
          · exact Nat.lt_of_lt_of_le hn (hahead x hx)
      obtain ⟨hcrossed, hgrows, hactive', hswept'⟩ :=
        between_ok hsound' hlt hswept hactive hbetween
      obtain ⟨hnumbered, hgrows', hlast⟩ := ih hcrossed hsplit (hactive' ▸ hcross) hswept' h
      exact ⟨hnumbered, hgrows.trans hgrows', hlast⟩

/-- The transitions that are found for a set of states are those of all code points. -/
theorem swept_of_run {found : Subsets} {sweep : Sweep} (hfound : found.Numbered limit)
    (h : run nfa nfa.linkCount limit { found } (nfa.boundaries set) = .ok sweep) :
    sweep.found.Numbered limit ∧ Grows found.sets sweep.found.sets ∧
      ∃ last, ∀ stop ≥ last, Swept nfa set sweep.found.sets stop sweep.transitions := by
  -- Before the first boundary nothing is led to, so no transitions are right.
  have hempty (stop : Nat) (hnone : ∀ n < stop, ∀ target, ¬ nfa.Leads set n target) :
      Swept nfa set found.sets stop [] :=
    ⟨.nil, nofun, nofun, fun n hn target hleads => absurd hleads (hnone n hn target)⟩
  cases hbs : nfa.boundaries set with
  | nil =>
    rw [hbs, run] at h
    cases h
    refine ⟨hfound, .refl _, 0, fun stop _ => hempty stop fun n _ target hleads => ?_⟩
    obtain ⟨b, hb, -⟩ := hleads.exists_boundaries.1
    rw [hbs] at hb
    cases hb
  | cons b rest =>
    rw [hbs] at h
    have hsorted : (nfa.boundaries set).Pairwise (·.le ·) := boundaries_sorted
    rw [hbs, List.pairwise_cons] at hsorted
    have hsplit : nfa.boundaries set = [] ++ b :: rest := hbs
    refine run_ok ⟨hfound, by simp⟩ hsplit ?_ (hempty _ fun n hn target hleads => ?_) h
    · intro target
      simp [opened, closed]
    · obtain ⟨x, hx, hle⟩ := hleads.exists_boundaries.1
      rw [hbs] at hx
      obtain _ | ⟨_, hx⟩ := hx
      · omega
      · have := Boundary.point_le_of_le (hsorted.1 x hx)
        omega

end Sweep

end GramSieve.Automaton
