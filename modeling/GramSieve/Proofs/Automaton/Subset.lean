import GramSieve.Proofs.Automaton.Reading
import GramSieve.Proofs.Automaton.Sweep
import GramSieve.Proofs.Automaton.Thompson
import Mathlib

namespace GramSieve.Automaton

/-!
# The subset construction

* `Explored` — a deterministic state does what its set of states does.
* `Dfa.explore_ok` — every set that is found is explored.
* `Dfa.acceptsFrom_iff` — a deterministic state accepts what is accepted after its set of states.
* `Dfa.accepts_iff`, `Dfa.accepts_language` — the automaton of an expression accepts the language of
  the expression.
-/

open Subsets

variable {nfa : Nfa} {limit : Nat}

/-- The transitions of a state lead to the closures of what is read in a set of states, and it accepts
if the set does. -/
structure Explored (nfa : Nfa) (sets : Array (List Nat)) (set : List Nat) (state : DfaState) :
    Prop where
  accept : state.accept = containsSorted set.toArray nfa.accept
  swept : ∃ last, ∀ stop ≥ last, Swept nfa set sets stop state.transitions.toList.reverse

/-- A state that was explored stays so while more sets get numbers. -/
theorem Explored.grows {sets sets' : Array (List Nat)} {set : List Nat} {state : DfaState}
    (h : Explored nfa sets set state) (hgrows : Grows sets sets') : Explored nfa sets' set state where
  accept := h.accept
  swept := by
    obtain ⟨last, hswept⟩ := h.swept
    exact ⟨last, fun stop hstop => (hswept stop hstop).grows hgrows⟩

namespace Dfa

/-- All sets with a number below `next` are explored. -/
def ExploredBelow (nfa : Nfa) (sets : Array (List Nat)) (next : Nat) (states : Array DfaState) : Prop :=
  ∀ i < next, ∀ set, sets[i]? = some set →
    ∃ state, states[i]? = some state ∧ Explored nfa sets set state

/-- The exploration ends when all sets that were found are explored, each of them once. -/
theorem explore_ok {fuel next : Nat} {found : Subsets} {states states' : Array DfaState}
    (hfuel : limit ≤ fuel + next) (hfound : found.Numbered limit)
    (hnext : next ≤ found.sets.size) (hsize : states.size = next)
    (hstates : ExploredBelow nfa found.sets next states)
    (h : explore nfa nfa.linkCount limit fuel next found states = .ok states') :
    ∃ sets, Grows found.sets sets ∧ sets.toList.Nodup ∧ states'.size = sets.size ∧
      ExploredBelow nfa sets sets.size states' := by
  induction fuel generalizing next found states with
  -- Each turn explores one set, and no more sets than the limit have numbers, so the fuel lasts.
  | zero =>
    cases h
    have := hfound.size_le
    exact ⟨found.sets, .refl _, hfound.numbered.nodup, by omega, fun i hi => hstates i (by omega)⟩
  | succ fuel ih =>
    rw [explore] at h
    split at h
    · rename_i hnone
      cases h
      rw [Array.getElem?_eq_none_iff] at hnone
      exact ⟨found.sets, .refl _, hfound.numbered.nodup, by omega, fun i hi => hstates i (by omega)⟩
    · rename_i set hset
      obtain ⟨sweep, hrun, h⟩ := ok_of_bind h
      obtain ⟨hnumbered, hgrows, hswept⟩ := Sweep.swept_of_run hfound hrun
      have hnextlt := (Array.getElem?_eq_some_iff.mp (hgrows _ _ hset)).1
      have hexplored : ExploredBelow nfa sweep.found.sets (next + 1)
          (states.push ⟨sweep.transitions.reverse.toArray, containsSorted set.toArray nfa.accept⟩) := by
        intro i hi set' hset'
        -- The set of this turn is explored now, and those before it stay so although more sets have
        -- numbers.
        obtain rfl | hlt := Nat.eq_or_lt_of_le (Nat.le_of_lt_succ hi)
        · obtain rfl : set = set' := Option.some.inj ((hgrows _ _ hset).symm.trans hset')
          exact ⟨_, hsize ▸ Array.getElem?_push_size, rfl, by simpa using hswept⟩
        · have hlt' : i < found.sets.size := by
            have := (Array.getElem?_eq_some_iff.mp hset).1
            omega
          have hold := hgrows _ _ (Array.getElem?_eq_getElem hlt')
          obtain ⟨state, hstate, hexplored⟩ := hstates i hlt _ (Array.getElem?_eq_getElem hlt')
          obtain rfl := Option.some.inj (hold.symm.trans hset')
          exact ⟨state, getElem?_push_of_getElem? hstate, hexplored.grows hgrows⟩
      obtain ⟨sets, hgrows', hall⟩ := ih (by omega) hnumbered hnextlt (by simp [hsize]) hexplored h
      exact ⟨sets, hgrows.trans hgrows', hall⟩

/-- A state accepts what is accepted after the states whose closure is its set. -/
theorem acceptsFrom_iff {dfa : Dfa} {sets : Array (List Nat)}
    (hall : ExploredBelow nfa sets sets.size dfa.states) (text : List Char) {i : Nat}
    {seeds : List Nat} (hset : sets[i]? = some (nfa.closure nfa.linkCount seeds)) :
    dfa.acceptsFrom i text = true ↔ nfa.AcceptsAfter seeds text := by
  obtain ⟨state, hstate, hexplored⟩ := hall i (Array.getElem?_eq_some_iff.mp hset).1 _ hset
  induction text generalizing i seeds state with
  | nil =>
    rw [acceptsFrom, isAccept, hstate, Option.any_some, hexplored.accept, Nfa.acceptsAfter_nil,
      Nfa.containsSorted_closure]
  | cons c text ih =>
    obtain ⟨last, hswept⟩ := hexplored.swept
    -- A sweep is right up to any place behind its last boundary, and so up to behind `c`.
    have hswept := hswept (max last (c.toNat + 1)) (Nat.le_max_left ..)
    have htransitions : dfa.transitions i = state.transitions := by
      rw [transitions, hstate]
      rfl
    have hmem (t) : t ∈ state.transitions.toList.reverse ↔ t ∈ dfa.transitions i := by
      rw [List.mem_reverse, Array.mem_toList_iff, htransitions]
    rw [acceptsFrom]
    cases hstep : dfa.step? i c with
    | some next =>
      obtain ⟨t, ht, hlo, hhi, rfl⟩ := exists_transition hstep
      obtain ⟨targets, -, hnext, htargets⟩ := hswept.sound t ((hmem t).mpr ht) c.toNat hlo hhi
      obtain ⟨state', hstate', hexplored'⟩ := hall _ (Array.getElem?_eq_some_iff.mp hnext).1 _ hnext
      rw [Nfa.acceptsAfter_cons htargets]
      exact ih hnext state' hstate' hexplored'
    | none =>
      -- If no transition is found by the search, none has `c` in its range, and nothing is led to.
      have hnone (target) : target ∈ [] ↔
          nfa.Leads (nfa.closure nfa.linkCount seeds) c.toNat target := by
        refine ⟨nofun, fun hleads => ?_⟩
        obtain ⟨t, ht, hlo, hhi⟩ := hswept.complete c.toNat
          (Nat.lt_of_lt_of_le (Nat.lt_succ_self _) (Nat.le_max_right ..)) target hleads
        have hsorted := hswept.sorted
        rw [List.pairwise_reverse, ← htransitions] at hsorted
        obtain ⟨next, hnext⟩ := exists_step hsorted
          (fun t ht => (hswept.proper t ((hmem t).mpr ht)).1) ((hmem t).mp ht) hlo hhi
        rw [hstep] at hnext
        cases hnext
      rw [Nfa.acceptsAfter_cons hnone]
      simp [Nfa.AcceptsAfter]

/-- The subset construction explores all sets that it finds, each of them once. The first of them is
that of the start. -/
theorem exploredBelow_of_ofNfa {dfa : Dfa} (h : ofNfa nfa limit = .ok dfa) :
    ∃ sets, sets.toList.Nodup ∧ dfa.size = sets.size ∧ ExploredBelow nfa sets sets.size dfa.states ∧
      sets[start]? = some (nfa.closure nfa.linkCount [nfa.start]) := by
  obtain ⟨⟨number, found⟩, hintern, h⟩ := ok_of_bind h
  obtain ⟨states, hexplore, h⟩ := ok_of_bind h
  cases h
  have hempty : ({} : Subsets).Numbered limit := ⟨by simp [Numbers], Nat.zero_le _⟩
  obtain ⟨hnumbered, -, hset⟩ := intern_ok hempty hintern
  -- The first set that is looked up gets the first number.
  have hnumber : number = start := by
    unfold Subsets.intern at hintern
    rw [Std.HashMap.getElem?_empty] at hintern
    simp only at hintern
    split at hintern
    · cases hintern
    · cases hintern
      rfl
  obtain ⟨sets, hgrows, hnodup, hsize, hall⟩ := explore_ok (show limit ≤ limit + 0 from Nat.le_refl _)
    hnumbered (Nat.zero_le _) (show (#[] : Array DfaState).size = 0 from rfl)
    (fun i hi => absurd hi (Nat.not_lt_zero i)) hexplore
  exact ⟨sets, hnodup, hsize, hall, hnumber ▸ hgrows _ _ hset⟩

/-- The automaton of an expression accepts the language of the expression. -/
theorem accepts_iff {r : Regex} {dfa : Dfa} (hr : r.WellBounded) (h : ofRegex r limit = .ok dfa)
    (text : List Char) : dfa.accepts text = true ↔ text ∈ r.language := by
  obtain ⟨nfa, hnfa, h⟩ := ok_of_bind h
  obtain ⟨sets, -, -, hall, hstart⟩ := exploredBelow_of_ofNfa h
  rw [← Nfa.accepts_iff_mem_language hr hnfa, accepts, acceptsFrom_iff hall text hstart]
  simp [Nfa.AcceptsAfter, Nfa.Accepts]

/-- **The automaton accepts the language.** Whenever the automaton of an expression is small enough to
be built, it accepts a text if and only if the text is in the language of the expression. -/
theorem accepts_language {r : Regex} {dfa : Dfa} (hr : r.WellBounded)
    (h : ofRegex r limit = .ok dfa) (text : String) :
    dfa.accepts text.toList = true ↔ text.toList ∈ r.language :=
  accepts_iff hr h text.toList

/-- One or two `a` and then a `b`. -/
theorem accepts_language_of_repetition :
    let r : Regex := .concat [.repetition 1 (some 2) true (.literal [97]), .oneOf .unicode [.single 98]]
    let dfa : Dfa := ⟨#[⟨#[⟨97, 97, 1⟩], false⟩, ⟨#[⟨97, 97, 2⟩, ⟨98, 98, 3⟩], false⟩,
      ⟨#[⟨98, 98, 3⟩], false⟩, ⟨#[], true⟩]⟩
    r.WellBounded ∧ ofRegex r 16 = .ok dfa ∧
      (dfa.accepts "ab".toList = true ↔ "ab".toList ∈ r.language) := by
  intro r dfa
  have hr : r.WellBounded := by simp [r, Regex.WellBounded, Regex.AllWellBounded]
  have h : ofRegex r 16 = .ok dfa := by cbv
  exact ⟨hr, h, accepts_language hr h "ab"⟩

end Dfa

end GramSieve.Automaton
