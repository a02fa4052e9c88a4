import GramSieve.CodeSet
import Mathlib.Data.Set.Basic

/-!
# The members of sets of code points

* `CodeSet.contains_iff` — a set holds what one of its ranges holds.
* `CodeSet.contains_normalize` — merging the ranges of a set keeps its members.
* `CodeSet.chars` — the characters in a set, by the operations that build it.
* `CodeSet.covers_of_mem_normalize` — no merged range is smaller than a range it comes from.
* `CodeSet.Populated.normalize` — so merged ranges hold a character each if all ranges did.
-/

namespace GramSieve

namespace CodeRange

theorem contains_iff {r : CodeRange} {n : Nat} : r.contains n = true ↔ r.lo ≤ n ∧ n ≤ r.hi := by
  rw [contains, Bool.and_eq_true, decide_eq_true_eq, decide_eq_true_eq]

/-- A range of one code point holds that one only. -/
theorem contains_single {m n : Nat} : (single m).contains n = true ↔ n = m := by
  rw [contains_iff]
  show m ≤ n ∧ n ≤ m ↔ n = m
  omega

/-- A range whose ends are the same is the range of one code point. -/
theorem single_eq {r : CodeRange} (h : r.lo = r.hi) : single r.lo = r := by
  rcases r with ⟨lo, hi, hle⟩
  obtain rfl : lo = hi := h
  rfl

theorem between_eq (r : CodeRange) : between r.lo r.hi = r := by
  have hlo : min r.lo r.hi = r.lo := Nat.min_eq_left r.lo_le_hi
  have hhi : max r.lo r.hi = r.hi := Nat.max_eq_right r.lo_le_hi
  rcases r with ⟨lo, hi, hle⟩
  simp only [between, hlo, hhi]

theorem contains_between {a b n : Nat} (h : a ≤ b) : (between a b).contains n = true ↔ a ≤ n ∧ n ≤ b := by
  have heq : between a b = { lo := a, hi := b } := between_eq { lo := a, hi := b }
  rw [heq, contains_iff]

theorem le_iff {r s : CodeRange} : r.le s = true ↔ r.lo < s.lo ∨ r.lo = s.lo ∧ r.hi ≤ s.hi := by
  simp [le]

end CodeRange

namespace CodeSet

variable {n : Nat} {s t : CodeSet}

theorem contains_iff : contains s n = true ↔ ∃ r ∈ s, r.contains n = true := List.any_eq_true

theorem contains_cons {r : CodeRange} :
    contains (r :: s) n = true ↔ r.contains n = true ∨ contains s n = true := by
  rw [contains, List.any_cons, Bool.or_eq_true, contains]

theorem contains_append :
    contains (s ++ t) n = true ↔ contains s n = true ∨ contains t n = true := by
  rw [contains, List.any_append, Bool.or_eq_true, contains, contains]

theorem contains_singleton {r : CodeRange} : contains [r] n = r.contains n := by
  rw [contains, List.any_cons, List.any_nil, Bool.or_false]

/-- Many sets put together hold what one of them holds. -/
theorem contains_flatten {sets : List CodeSet} :
    contains sets.flatten n = true ↔ ∃ s ∈ sets, contains s n = true := by
  constructor
  · intro h
    obtain ⟨r, hr, hn⟩ := contains_iff.mp h
    obtain ⟨s, hs, hr⟩ := List.mem_flatten.mp hr
    exact ⟨s, hs, contains_iff.mpr ⟨r, hr, hn⟩⟩
  · rintro ⟨s, hs, h⟩
    obtain ⟨r, hr, hn⟩ := contains_iff.mp h
    exact contains_iff.mpr ⟨r, List.mem_flatten.mpr ⟨s, hs, hr⟩, hn⟩

/-! ### Merging -/

/-- Ranges that begin in order can be merged one after the other. -/
theorem contains_mergeInto {current : CodeRange} {rest : List CodeRange}
    (h : (current :: rest).Pairwise fun r s => r.lo ≤ s.lo) :
    contains (mergeInto current rest) n = true ↔ contains (current :: rest) n = true := by
  fun_induction mergeInto current rest with
  | case1 => exact Iff.rfl
  | case2 current r rest htouch ih =>
    obtain ⟨hfirst, hrest⟩ := List.pairwise_cons.mp h
    obtain ⟨hr, hrest⟩ := List.pairwise_cons.mp hrest
    have hle : current.lo ≤ r.lo := hfirst r (.head _)
    have horder : ∀ s ∈ rest, current.lo ≤ s.lo := fun s hs => Nat.le_trans hle (hr s hs)
    rw [ih (List.pairwise_cons.mpr ⟨horder, hrest⟩), contains_cons, contains_cons, contains_cons,
      ← or_assoc]
    -- The merged range has the members of both, as there is no gap between them.
    refine or_congr_left ?_
    rw [CodeRange.contains_iff, CodeRange.contains_iff, CodeRange.contains_iff]
    show current.lo ≤ n ∧ n ≤ max current.hi r.hi ↔ _
    have := r.lo_le_hi
    omega
  | case3 current r rest hgap ih =>
    rw [contains_cons, contains_cons (r := current), ih (List.pairwise_cons.mp h).2]

/-- Sorted ranges start one behind the other, which is all that merging them needs. -/
theorem pairwise_mergeSort (ranges : List CodeRange) :
    (ranges.mergeSort CodeRange.le).Pairwise fun r s => r.lo ≤ s.lo := by
  have htrans : ∀ a b c : CodeRange, a.le b = true → b.le c = true → a.le c = true := by
    intro a b c
    rw [CodeRange.le_iff, CodeRange.le_iff, CodeRange.le_iff]
    omega
  have htotal : ∀ a b : CodeRange, (a.le b || b.le a) = true := by
    intro a b
    rw [Bool.or_eq_true, CodeRange.le_iff, CodeRange.le_iff]
    omega
  refine (List.pairwise_mergeSort htrans htotal ranges).imp fun h => ?_
  rw [CodeRange.le_iff] at h
  omega

/-- Merging the ranges of a set keeps its members. -/
theorem contains_normalize {ranges : List CodeRange} :
    contains (normalize ranges) n = true ↔ contains ranges n = true := by
  have hsorted : contains (ranges.mergeSort CodeRange.le) n = true ↔ contains ranges n = true := by
    simp only [contains_iff, List.mem_mergeSort]
  have horder := pairwise_mergeSort ranges
  rw [← hsorted]
  unfold normalize
  split
  · rename_i heq
    rw [heq]
  · rename_i r rest heq
    rw [heq] at horder ⊢
    exact contains_mergeInto horder

/-- No range gets lost in merging: each result has all of some range that went in. -/
theorem covers_of_mem_mergeInto {current r : CodeRange} {rest : List CodeRange}
    (h : r ∈ mergeInto current rest) :
    ∃ s ∈ current :: rest, ∀ n, s.contains n = true → r.contains n = true := by
  fun_induction mergeInto current rest with
  | case1 current => exact ⟨current, .head _, fun n hn => List.mem_singleton.mp h ▸ hn⟩
  | case2 current s rest _ ih =>
    obtain ⟨t, ht, hcovers⟩ := ih h
    rcases List.mem_cons.mp ht with rfl | ht
    -- The range that was joined to the next one starts no later and ends no earlier.
    · refine ⟨current, .head _, fun n hn => hcovers n ?_⟩
      rw [CodeRange.contains_iff] at hn ⊢
      exact ⟨hn.1, Nat.le_trans hn.2 (Nat.le_max_left _ _)⟩
    · exact ⟨t, .tail _ (.tail _ ht), hcovers⟩
  | case3 current s rest _ ih =>
    rcases List.mem_cons.mp h with rfl | h
    · exact ⟨_, .head _, fun _ hn => hn⟩
    · obtain ⟨t, ht, hcovers⟩ := ih h
      exact ⟨t, .tail _ ht, hcovers⟩

/-- No merged range is smaller than a range it comes from. -/
theorem covers_of_mem_normalize {ranges : List CodeRange} {r : CodeRange}
    (h : r ∈ normalize ranges) :
    ∃ s ∈ ranges, ∀ n, s.contains n = true → r.contains n = true := by
  unfold normalize at h
  split at h
  · cases h
  · rename_i first rest heq
    obtain ⟨s, hs, hcovers⟩ := covers_of_mem_mergeInto h
    rw [← heq] at hs
    exact ⟨s, List.mem_mergeSort.mp hs, hcovers⟩

/-! ### Characters -/

/-- The characters in a set. -/
def chars (set : CodeSet) : Set Char := {c | set.contains c.toNat = true}

theorem mem_chars {c : Char} : c ∈ s.chars ↔ contains s c.toNat = true := Iff.rfl

theorem chars_nil : chars [] = ∅ := Set.eq_empty_of_forall_notMem fun _ h => nomatch h

/-- A range of one code point has one character. -/
theorem chars_single (c : Char) : chars [CodeRange.single c.toNat] = {c} := by
  ext d
  rw [mem_chars, contains_singleton, CodeRange.contains_single, Char.toNat_inj]
  rfl

theorem chars_append : chars (s ++ t) = s.chars ∪ t.chars := Set.ext fun _ => contains_append

/-- Normalizing a set does not change its characters. -/
theorem chars_normalize : (normalize s).chars = s.chars := Set.ext fun _ => contains_normalize

/-! ### Ranges with characters -/

/-- Every range holds a character, and not surrogates alone. -/
def Populated (set : CodeSet) : Prop := ∀ r ∈ set, ∃ c : Char, r.contains c.toNat = true

theorem populated_nil : Populated [] := List.forall_mem_nil _

/-- Sets without empty ranges have none when they are put together. -/
theorem Populated.append (hs : s.Populated) (ht : t.Populated) : Populated (s ++ t) := by
  intro r hr
  rcases List.mem_append.mp hr with hr | hr
  · exact hs r hr
  · exact ht r hr

theorem populated_flatten {sets : List CodeSet} (h : ∀ s ∈ sets, s.Populated) :
    Populated sets.flatten := by
  intro r hr
  obtain ⟨s, hs, hr⟩ := List.mem_flatten.mp hr
  exact h s hs r hr

theorem populated_single (c : Char) : Populated [CodeRange.single c.toNat] :=
  List.forall_mem_singleton.mpr ⟨c, CodeRange.contains_single.mpr rfl⟩

/-- Merging ranges makes no empty ones. -/
theorem Populated.normalize (hs : s.Populated) : Populated (normalize s) := by
  intro r hr
  obtain ⟨t, ht, hcovers⟩ := covers_of_mem_normalize hr
  obtain ⟨c, hc⟩ := hs t ht
  exact ⟨c, hcovers _ hc⟩

end CodeSet

end GramSieve
