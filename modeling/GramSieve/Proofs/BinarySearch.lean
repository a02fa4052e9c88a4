import GramSieve.BinarySearch

namespace GramSieve

/-!
# What a binary search finds

* `firstIndex_le`, `test_firstIndex` — the search stays below its end, and the test holds where it ends
  before that.
* `firstIndex_le_of_test` — an ascending test holds at no earlier index.
* `mem_of_containsSorted` — only what is there is found, in whatever order the values are.
* `containsSorted_iff` — if the values ascend, all that is there is found.
-/

variable {test : Nat → Bool} {lo hi : Nat}

/-- A search does not leave the stretch that it was given. -/
theorem firstIndex_le (h : lo ≤ hi) : firstIndex test lo hi ≤ hi := by
  fun_induction firstIndex test lo hi with
  | case1 lo hi hlt mid htest ih =>
    have := ih (by omega)
    omega
  | case2 lo hi hlt mid htest ih => exact ih (by omega)
  | case3 => exact h

/-- Whatever the test is, it holds at the index that is found, unless the search ends at the end. -/
theorem test_firstIndex (h : firstIndex test lo hi < hi) : test (firstIndex test lo hi) := by
  fun_induction firstIndex test lo hi with
  | case1 lo hi hlt mid htest ih =>
    by_cases heq : firstIndex test lo mid < mid
    · exact ih heq
    · have : firstIndex test lo mid ≤ mid := firstIndex_le (by omega)
      rwa [show firstIndex test lo mid = mid by omega]
  | case2 lo hi hlt mid htest ih => exact ih h
  | case3 => omega

/-- An ascending test holds nowhere before the index that is found. -/
theorem firstIndex_le_of_test {i : Nat} (hmono : ∀ i j, i ≤ j → j < hi → test i → test j)
    (hlo : lo ≤ i) (hlt : i < hi) (htest : test i) : firstIndex test lo hi ≤ i := by
  fun_induction firstIndex test lo hi with
  | case1 lo hi _ mid _ ih =>
    by_cases hi : i < mid
    · exact ih (fun i j hij hj => hmono i j hij (by omega)) hlo hi
    · have : firstIndex test lo mid ≤ mid := firstIndex_le (by omega)
      omega
  | case2 lo hi _ mid hmid ih =>
    refine ih hmono (Nat.lt_of_not_le fun hle => hmid ?_) hlt
    exact hmono i mid hle (by omega) htest
  | case3 => omega

section ContainsSorted

variable {α : Type} [DecidableEq α] [Ord α] {xs : Array α} {x : α}

/-- What the search finds is there, even if the values do not ascend. -/
theorem mem_of_containsSorted (h : containsSorted xs x = true) : x ∈ xs :=
  Array.mem_of_getElem? (of_decide_eq_true h)

variable [Std.TransOrd α] [Std.LawfulEqOrd α]

/-- Among ascending values the search misses none: the first value that is not less than one of them is
that one itself. -/
theorem containsSorted_iff (hsorted : xs.toList.Pairwise fun a b => (compare a b).isLE = true) :
    containsSorted xs x = true ↔ x ∈ xs := by
  refine ⟨mem_of_containsSorted, fun hmem => ?_⟩
  obtain ⟨k, hk, rfl⟩ := Array.getElem_of_mem hmem
  have hle {i j : Nat} (hij : i ≤ j) (hj : j < xs.size) : (compare xs[i] xs[j]).isLE = true := by
    obtain rfl | hlt := Nat.eq_or_lt_of_le hij
    · exact Std.ReflCmp.isLE_rfl
    · exact List.pairwise_iff_getElem.mp hsorted i j (by simp; omega) (by simpa) hlt
  have hmono (i j : Nat) (hij : i ≤ j) (hj : j < xs.size)
      (hi : xs[i]?.any fun y => (compare xs[k] y).isLE) :
      xs[j]?.any fun y => (compare xs[k] y).isLE := by
    rw [Array.getElem?_eq_getElem (Nat.lt_of_le_of_lt hij hj), Option.any_some] at hi
    rw [Array.getElem?_eq_getElem hj, Option.any_some]
    exact Std.TransCmp.isLE_trans hi (hle hij hj)
  have hfirst := firstIndex_le_of_test hmono (Nat.zero_le k) hk (by
    rw [Array.getElem?_eq_getElem hk, Option.any_some]
    exact Std.ReflCmp.isLE_rfl)
  unfold containsSorted
  generalize hfound : firstIndex _ 0 xs.size = i at hfirst
  have hi : i < xs.size := Nat.lt_of_le_of_lt hfirst hk
  have htest := test_firstIndex (hfound ▸ hi)
  rw [hfound, Array.getElem?_eq_getElem hi, Option.any_some] at htest
  -- Neither is the value that is found less, nor is the one that is looked for.
  have heq : xs[i] = xs[k] :=
    Std.LawfulEqCmp.eq_of_compare (Std.OrientedCmp.isLE_antisymm (hle hfirst hk) htest)
  rw [decide_eq_true_iff, Array.getElem?_eq_getElem hi, heq]

end ContainsSorted

end GramSieve
