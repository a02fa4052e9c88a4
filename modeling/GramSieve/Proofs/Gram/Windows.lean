import GramSieve.Gram.Analyzer
import Mathlib.Data.List.Infix

namespace GramSieve.Gram

/-!
# The windows of a text

* `windows_eq_map`, `extractGrams_eq_map` — there is one at every position.
* `mem_windows` — the windows of a text are its parts of the given length.
* `mem_extractGrams` — so are the grams.
* `windows_of_short`, `extractGrams_of_length` — texts that are too short or just long enough.
-/

/-- A text that is too short has no windows. -/
theorem windows_of_short {size : Nat} {text : List Char} (h : text.length < size) :
    windows size text = [] := by
  cases text with
  | nil => rfl
  | cons c text =>
    rw [windows]
    apply if_pos
    rw [List.length_take]
    omega

/-- There is a window at every position that leaves room for one, from the left to the right. -/
theorem windows_eq_map {size : Nat} (hsize : 0 < size) (text : List Char) :
    windows size text =
      (List.range (text.length + 1 - size)).map fun i => (text.drop i).take size := by
  induction text with
  | nil =>
    have hnone : 0 + 1 - size = 0 := by omega
    rw [windows, List.length_nil, hnone]
    rfl
  | cons c text ih =>
    have hlength : ((c :: text).take size).length = min size (text.length + 1) := List.length_take
    rw [windows]
    split
    · -- There is room for no window at all.
      have hnone : text.length + 1 + 1 - size = 0 := by omega
      rw [List.length_cons, hnone]
      rfl
    · -- The first window stands at position 0, the others one position further than in what is left.
      have hone : text.length + 1 + 1 - size = text.length + 1 - size + 1 := by omega
      rw [List.length_cons, hone, List.range_succ_eq_map, List.map_cons, List.map_map, ih]
      rfl

/-- The grams of a text start at each character that has enough others behind it. -/
theorem extractGrams_eq_map (size : Nat) (text : String) :
    extractGrams size text = if size = 0 then [] else
      (List.range (text.toList.length + 1 - size)).map fun i =>
        String.ofList ((text.toList.drop i).take size) := by
  unfold extractGrams
  split
  · rfl
  · rename_i hne
    rw [windows_eq_map (Nat.pos_of_ne_zero hne), List.map_map]
    rfl

/-- The windows of a text are its parts of that length. -/
theorem mem_windows {size : Nat} (hsize : 0 < size) {text window : List Char} :
    window ∈ windows size text ↔ window.length = size ∧ window <:+: text := by
  induction text with
  | nil =>
    rw [windows, List.infix_nil]
    refine ⟨nofun, ?_⟩
    rintro ⟨rfl, rfl⟩
    exact absurd hsize (Nat.lt_irrefl 0)
  | cons c text ih =>
    rw [windows]
    split
    · -- What is left of the text is too short.
      rename_i hshort
      refine ⟨nofun, fun ⟨hlength, hinfix⟩ => ?_⟩
      have := hinfix.length_le
      rw [List.length_take] at hshort
      omega
    · rename_i hlong
      have hlength : ((c :: text).take size).length = size := by
        rw [List.length_take] at hlong ⊢
        omega
      rw [List.mem_cons, ih, List.infix_cons_iff]
      constructor
      · rintro (rfl | ⟨h, hinfix⟩)
        · exact ⟨hlength, .inl (List.take_prefix _ _)⟩
        · exact ⟨h, .inr hinfix⟩
      · rintro ⟨h, hprefix | hinfix⟩
        · exact .inl (by rw [← h]; exact List.prefix_iff_eq_take.mp hprefix)
        · exact .inr ⟨h, hinfix⟩

/-- The grams of a text are its parts of that length, and there are none of length zero. -/
theorem mem_extractGrams {size : Nat} {text term : String} :
    term ∈ extractGrams size text ↔
      0 < size ∧ ∃ window, window.length = size ∧ window <:+: text.toList ∧
        String.ofList window = term := by
  unfold extractGrams
  split
  · rename_i hzero
    simp [hzero]
  · rename_i hne
    have hsize := Nat.pos_of_ne_zero hne
    simp only [List.mem_map, mem_windows hsize, hsize, true_and, and_assoc]

/-- A gram has no term but itself. -/
theorem extractGrams_of_length {size : Nat} (hsize : 1 ≤ size) {gram : List Char}
    (hlength : gram.length = size) :
    extractGrams size (String.ofList gram) = [String.ofList gram] := by
  cases gram with
  | nil =>
    rw [List.length_nil] at hlength
    omega
  | cons c rest =>
    have htake : (c :: rest).take size = c :: rest := List.take_of_length_le hlength.le
    have hrest : rest.length < size := by
      rw [List.length_cons] at hlength
      omega
    rw [extractGrams, if_neg (by omega), String.toList_ofList, windows, htake,
      if_neg (by omega), windows_of_short hrest, List.map_singleton]

end GramSieve.Gram
