import GramSieve.Gram.Graph
import Mathlib.Data.List.DropRight
import Mathlib.Tactic.Common

namespace GramSieve.Gram

/-!
# What is read at a place

* `Reading`, `Place.readings` — what is read at a place, in order.
* `Reading.place_ofChar`, `Reading.gram_ofChar` — what is left of a window, and when it makes a gram.
* `Reading.through`, `Place.mem_readings_iff` — what is read when a character is read through a
  transition.
* `GramGraph.foldlM_readTransition` — finding the edges of a place follows its readings.
-/

open Automaton

/-! ### The characters of a transition -/

namespace GramGraph

/-- Every character of a transition is tried. -/
theorem mem_charsOf {t : Transition} {c : Char} (hlo : t.lo ≤ c.toNat) (hhi : c.toNat ≤ t.hi) :
    c ∈ charsOf t := by
  refine List.mem_map.mpr ⟨c.toNat, List.mem_filter.mpr ⟨?_, ?_⟩, Char.ofNat_toNat c⟩
  · rw [List.mem_range'_1, Transition.width]
    omega
  · exact decide_eq_true (show c.toNat.isValidChar from c.valid)

/-- A transition for one character tries that one only. -/
theorem charsOf_single (c : Char) (target : Nat) :
    charsOf ⟨c.toNat, c.toNat, target⟩ = [c] := by
  have hwidth : Transition.width ⟨c.toNat, c.toNat, target⟩ = 1 := by
    simp [Transition.width]
  have hvalid : c.toNat.isValidChar := c.valid
  rw [charsOf, hwidth]
  simp [hvalid, Char.ofNat_toNat]

end GramGraph

/-! ### Readings -/

/-- What is read at a place: the place that it leads to, and the gram that it completes. -/
structure Reading where
  place : Place
  gram : Option (List Char)

namespace Reading

/-- Reading a character behind a window. -/
def ofChar (b : Bounds) (window : List Char) (state : Nat) (c : Char) : Reading :=
  if (window ++ [c]).length = b.gramSize then ⟨⟨state, (window ++ [c]).tail⟩, some (window ++ [c])⟩
  else ⟨⟨state, window ++ [c]⟩, none⟩

/-- What is read through a transition, one by one if it is narrow. -/
def ofTransition (b : Bounds) (window : List Char) (t : Transition) : List Reading :=
  if b.maxExpand < t.width then [⟨⟨t.target, []⟩, none⟩]
  else (GramGraph.charsOf t).map (ofChar b window t.target)

/-- Reading a character through a transition. Through a wide one it does not matter which one it is. -/
def through (b : Bounds) (window : List Char) (t : Transition) (c : Char) : Reading :=
  if b.maxExpand < t.width then ⟨⟨t.target, []⟩, none⟩ else .ofChar b window t.target c

variable {b : Bounds} {window : List Char} {state : Nat} {t : Transition} {c : Char}

/-- Reading leads to the state of the transition, with whatever window. -/
theorem state_ofChar (window : List Char) (state : Nat) :
    (ofChar b window state c).place.state = state := by
  unfold ofChar
  split
  · rfl
  · rfl

/-- What is kept is the end of what was read, one character less than a gram. -/
theorem place_ofChar (hwindow : window.length < b.gramSize) :
    (ofChar b window state c).place = ⟨state, (window ++ [c]).rtake (b.gramSize - 1)⟩ := by
  unfold ofChar
  split
  · rename_i hlength
    have hdrop : (window ++ [c]).length - (b.gramSize - 1) = 1 := by omega
    rw [List.rtake, hdrop, List.drop_one]
  · rename_i hlength
    rw [List.length_append, List.length_singleton] at hlength
    have hdrop : (window ++ [c]).length - (b.gramSize - 1) = 0 := by simp; omega
    rw [List.rtake, hdrop, List.drop_zero]

/-- A gram is complete when the window and the character have its length. -/
theorem gram_ofChar {gram : List Char} : (ofChar b window state c).gram = some gram ↔
    (window ++ [c]).length = b.gramSize ∧ window ++ [c] = gram := by
  unfold ofChar
  split
  · rename_i hlength
    simp [hlength]
  · rename_i hlength
    simp only [reduceCtorEq, false_iff, not_and]
    exact fun h => absurd h hlength

/-- The new window is an end of the old one with the character behind it. -/
theorem window_ofChar_suffix : (ofChar b window state c).place.window <:+ window ++ [c] := by
  unfold ofChar
  split
  · exact List.tail_suffix _
  · exact List.suffix_rfl

/-- Wide transitions, too, lead to their target. -/
theorem state_through : (through b window t c).place.state = t.target := by
  unfold through
  split
  · rfl
  · exact state_ofChar window t.target

/-- What is kept is an end of what was read. -/
theorem window_through_suffix : (through b window t c).place.window <:+ window ++ [c] := by
  unfold through
  split
  · exact List.nil_suffix
  · exact window_ofChar_suffix

/-- They complete a gram only if they are expanded, and then the one of their character. -/
theorem gram_of_through {gram : List Char} (h : (through b window t c).gram = some gram) :
    (window ++ [c]).length = b.gramSize ∧ window ++ [c] = gram := by
  unfold through at h
  split at h
  · cases h
  · exact gram_ofChar.mp h

/-- A transition is read by each of its characters, or once for any of them if it is too wide. -/
theorem mem_ofTransition_iff {r : Reading} : r ∈ ofTransition b window t ↔
      ∃ c, (t.width ≤ b.maxExpand → c ∈ GramGraph.charsOf t) ∧ r = through b window t c := by
  unfold ofTransition through
  by_cases hwide : b.maxExpand < t.width
  · have hnarrow : ¬ t.width ≤ b.maxExpand := Nat.not_le_of_lt hwide
    simp [hwide, hnarrow]
  · have hnarrow : t.width ≤ b.maxExpand := Nat.le_of_not_lt hwide
    simp [hwide, hnarrow, List.mem_map, eq_comm]

end Reading

/-- What is read at a place, in order. Nothing is if a text may end there. -/
def Place.readings (b : Bounds) (dfa : Dfa) (place : Place) : List Reading :=
  if dfa.isAccept place.state then []
  else (dfa.transitions place.state).toList.flatMap (Reading.ofTransition b place.window)

/-- What is read at places, one after the other. -/
def readingsOf (b : Bounds) (dfa : Dfa) (places : List Place) : List Reading :=
  places.flatMap (·.readings b dfa)

/-- A place has the readings of the transitions of its state, but none if the state accepts. -/
theorem Place.mem_readings_iff {b : Bounds} {dfa : Dfa} {place : Place} {r : Reading} :
    r ∈ place.readings b dfa ↔ dfa.isAccept place.state = false ∧
      ∃ t ∈ dfa.transitions place.state, ∃ c, (t.width ≤ b.maxExpand → c ∈ GramGraph.charsOf t) ∧
        r = .through b place.window t c := by
  unfold readings
  split
  · rename_i haccept
    simp [haccept]
  · rename_i haccept
    simp only [List.mem_flatMap, Array.mem_toList_iff, Reading.mem_ofTransition_iff,
      Bool.eq_false_iff.mpr haccept, true_and]

namespace GramGraph

variable {b : Bounds} {found : Found} {window : List Char}

/-! ### Following readings -/

/-- Adds the edge for a reading. -/
def follow (b : Bounds) (found : Found) (r : Reading) : Except TooComplexToTrace Found := do
  let recorded := match r.gram with
    | none => (none, found.2)
    | some gram => found.2.record b.maxGrams gram
  let (target, f) ← recorded.2.visit b.maxStatesTraced r.place
  return (⟨recorded.1, target⟩ :: found.1, f)

/-- Reading a character is following its reading. -/
theorem readChar_eq_follow {state : Nat} {c : Char} :
    readChar b window state found c = follow b found (.ofChar b window state c) := by
  unfold readChar Reading.ofChar follow
  simp only
  split
  · rfl
  · rfl

/-- Reading a transition is following its readings in order. -/
theorem readTransition_eq_foldlM {t : Transition} :
    readTransition b window found t = (Reading.ofTransition b window t).foldlM (follow b) found := by
  unfold readTransition Reading.ofTransition
  split
  · rw [List.foldlM_cons]
    simp only [List.foldlM_nil, bind_pure]
    rfl
  · rw [List.foldlM_map]
    congr 1
    funext found c
    exact readChar_eq_follow

/-- Finding the edges of a place follows its readings. -/
theorem foldlM_readTransition {ts : List Transition} :
    ts.foldlM (readTransition b window) found =
      (ts.flatMap (Reading.ofTransition b window)).foldlM (follow b) found := by
  induction ts generalizing found with
  | nil => rfl
  | cons t ts ih =>
    rw [List.foldlM_cons, List.flatMap_cons, List.foldlM_append, readTransition_eq_foldlM]
    congr 1
    funext found
    exact ih

end GramGraph

end GramSieve.Gram
