import GramSieve.Pattern.Folding
import GramSieve.Proofs.Basic
import GramSieve.Proofs.CodeSet
import GramSieve.Proofs.Text.Folding
import Mathlib.Data.List.Nodup
import Mathlib.Data.List.Perm.Subperm

/-!
# The folded forms of a range, in ascending order

The folded forms of the characters of a range are sorted, each is kept once, and those that follow
each other become ranges again.

* `mem_foldedMembers` — the folded forms of the characters from `lo` to `hi`.
* `pairwise_sortedDistinct`, `mem_sortedDistinct` — the same code points in ascending order.
* `length_sortedDistinct_eq_iff` — there are as many of them if no two were the same.
* `contains_runs`, `ends_mem_runs` — the ranges hold these code points and no others.
-/

namespace GramSieve.Pattern

open Text

/-! ### Folded forms -/

variable {fold : CaseFold} {lo hi n : Nat} {ns : List Nat}

/-- The characters between two code points are found one by one. -/
theorem mem_charsBetween {c : Char} : c ∈ charsBetween lo hi ↔ lo ≤ c.toNat ∧ c.toNat ≤ hi := by
  rw [charsBetween, List.mem_filterMap]
  constructor
  · rintro ⟨n, hn, h⟩
    split at h
    · rename_i hvalid
      cases h
      rw [toNat_ofNat_of_isValidChar hvalid]
      have := List.mem_range'_1.mp hn
      omega
    · cases h
  · intro h
    have hvalid : c.toNat.isValidChar := c.valid
    refine ⟨c.toNat, List.mem_range'_1.mpr (by omega), ?_⟩
    rw [if_pos hvalid, Char.ofNat_toNat]

/-- None of them is found twice. -/
theorem nodup_charsBetween (lo hi : Nat) : (charsBetween lo hi).Nodup := by
  refine List.Nodup.filterMap ?_ List.nodup_range'
  -- The character gives the code point back.
  have hnat {n : Nat} {c : Char} (h : c ∈ if n.isValidChar then some (Char.ofNat n) else none) :
      c.toNat = n := by
    obtain ⟨hvalid, h⟩ := Option.ite_none_right_eq_some.mp h
    rw [← Option.some.inj h, toNat_ofNat_of_isValidChar hvalid]
  intro m n c hm hn
  rw [← hnat hm, hnat hn]

/-- The folded members of a range are the code points that its characters fold to. -/
theorem mem_foldedMembers :
    n ∈ foldedMembers fold lo hi ↔
      ∃ c : Char, (lo ≤ c.toNat ∧ c.toNat ≤ hi) ∧ (fold.fold c).toNat = n := by
  simp only [foldedMembers, List.mem_map, mem_charsBetween]

/-! ### Ascending code points -/

/-- Dropping repetitions loses no value. -/
theorem mem_distinct : n ∈ sortedDistinct.distinct ns ↔ n ∈ ns := by
  fun_induction sortedDistinct.distinct ns with
  | case1 | case2 => exact Iff.rfl
  | case3 m rest ih =>
    rw [ih]
    simp
  | case4 k m rest _ ih => rw [List.mem_cons, ih, List.mem_cons (a := n) (b := k)]

/-- It puts ascending values in strictly ascending order. -/
theorem pairwise_distinct (h : ns.Pairwise (· ≤ ·)) :
    (sortedDistinct.distinct ns).Pairwise (· < ·) := by
  fun_induction sortedDistinct.distinct ns with
  | case1 => exact List.Pairwise.nil
  | case2 k => exact List.pairwise_singleton _ k
  | case3 m rest ih => exact ih (List.pairwise_cons.mp h).2
  | case4 k m rest hne ih =>
    obtain ⟨hk, hrest⟩ := List.pairwise_cons.mp h
    refine List.pairwise_cons.mpr ⟨fun j hj => ?_, ih hrest⟩
    -- The next one is greater, and nothing behind it is less.
    have hkm : k ≤ m := hk m (.head _)
    rcases List.mem_cons.mp (mem_distinct.mp hj) with rfl | hj
    · omega
    · have := (List.pairwise_cons.mp hrest).1 j hj
      omega

theorem mem_sortedDistinct : n ∈ sortedDistinct ns ↔ n ∈ ns := by
  rw [sortedDistinct, mem_distinct, List.mem_mergeSort]

/-- The values are in strictly ascending order then. -/
theorem pairwise_sortedDistinct (ns : List Nat) : (sortedDistinct ns).Pairwise (· < ·) := by
  have htrans : ∀ a b c : Nat, decide (a ≤ b) = true → decide (b ≤ c) = true →
      decide (a ≤ c) = true := by
    intro a b c hab hbc
    rw [decide_eq_true_eq] at *
    exact Nat.le_trans hab hbc
  have htotal : ∀ a b : Nat, (decide (a ≤ b) || decide (b ≤ a)) = true := by
    intro a b
    rw [Bool.or_eq_true, decide_eq_true_eq, decide_eq_true_eq]
    exact Nat.le_total a b
  exact pairwise_distinct ((List.pairwise_mergeSort htrans htotal ns).imp of_decide_eq_true)

/-- The smallest one comes first. -/
theorem head?_sortedDistinct_eq_some_iff :
    (sortedDistinct ns).head? = some n ↔ n ∈ ns ∧ ∀ m ∈ ns, n ≤ m := by
  have hmem {m : Nat} : m ∈ sortedDistinct ns ↔ m ∈ ns := mem_sortedDistinct
  have hsorted := pairwise_sortedDistinct ns
  simp only [← hmem]
  rcases hns : sortedDistinct ns with _ | ⟨k, rest⟩
  · simp
  · rw [hns] at hsorted
    have hk := (List.pairwise_cons.mp hsorted).1
    simp only [List.head?_cons, Option.some.injEq, List.mem_cons, forall_eq_or_imp]
    constructor
    · rintro rfl
      exact ⟨.inl rfl, Nat.le_refl _, fun m hm => Nat.le_of_lt (hk m hm)⟩
    · rintro ⟨rfl | hn, hle, -⟩
      · rfl
      · have := hk n hn
        omega

/-- As many distinct code points as there are: no two are the same. -/
theorem length_sortedDistinct_eq_iff : (sortedDistinct ns).length = ns.length ↔ ns.Nodup := by
  have hnodup : (sortedDistinct ns).Nodup :=
    (pairwise_sortedDistinct ns).imp fun h => Nat.ne_of_lt h
  have hmem {m : Nat} : m ∈ sortedDistinct ns ↔ m ∈ ns := mem_sortedDistinct
  constructor
  · intro hlength
    have hsub := List.subperm_of_subset hnodup fun m hm => hmem.mp hm
    exact (hsub.perm_of_length_le (Nat.le_of_eq hlength.symm)).nodup_iff.mp hnodup
  · intro h
    exact ((List.perm_ext_iff_of_nodup hnodup h).mpr fun _ => hmem).length_eq

/-! ### Runs -/

/-- Each value goes on with the current run or starts the next one. -/
theorem contains_runs_go {current : CodeRange} :
    CodeSet.contains (runs.go current ns) n = true ↔ current.contains n = true ∨ n ∈ ns := by
  fun_induction runs.go current ns with
  | case1 current => rw [CodeSet.contains_singleton, List.mem_nil_iff, or_false]
  | case2 current rest ih =>
    rw [ih, List.mem_cons, ← or_assoc, CodeRange.contains_iff, CodeRange.contains_iff]
    -- The run gets longer by the one code point behind its end.
    refine or_congr_left ?_
    show current.lo ≤ n ∧ n ≤ current.hi + 1 ↔ _
    have := current.lo_le_hi
    omega
  | case3 current k rest _ ih =>
    rw [CodeSet.contains_cons, ih, CodeRange.contains_single, List.mem_cons]

/-- The runs of some values hold these and no others. -/
theorem contains_runs : CodeSet.contains (runs ns) n = true ↔ n ∈ ns := by
  rcases ns with _ | ⟨k, rest⟩
  · exact ⟨nofun, nofun⟩
  · rw [runs, contains_runs_go, CodeRange.contains_single, List.mem_cons]

/-- A run starts and ends with values that it was made of. -/
theorem ends_mem_runs_go {current r : CodeRange} (h : r ∈ runs.go current ns) :
    r.lo ∈ current.lo :: ns ∧ r.hi ∈ current.hi :: ns := by
  fun_induction runs.go current ns with
  | case1 current =>
    rw [List.mem_singleton.mp h]
    exact ⟨.head _, .head _⟩
  | case2 current rest ih =>
    obtain ⟨hlo, hhi⟩ := ih h
    refine ⟨?_, .tail _ hhi⟩
    rcases List.mem_cons.mp hlo with hlo | hlo
    · exact hlo ▸ .head _
    · exact .tail _ (.tail _ hlo)
  | case3 current k rest _ ih =>
    rcases List.mem_cons.mp h with rfl | h
    · exact ⟨.head _, .head _⟩
    · exact ⟨.tail _ (ih h).1, .tail _ (ih h).2⟩

/-- The ends of a run are in it. -/
theorem ends_mem_runs {r : CodeRange} (h : r ∈ runs ns) : r.lo ∈ ns ∧ r.hi ∈ ns := by
  rcases ns with _ | ⟨k, rest⟩
  · cases h
  · exact ends_mem_runs_go h

end GramSieve.Pattern
