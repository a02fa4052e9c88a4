import Mathlib.Algebra.Order.BigOperators.Group.Finset

namespace GramSieve

/-!
# The fuel of a walk over a graph

* `pending` — the work that waits in the nodes a walk has not met yet.
* `pending_meet` — meeting a node takes its work away.
-/

/-- The work of the nodes below `n` that were not met yet. -/
def pending (n : Nat) (work : Nat → Nat) (met : Nat → Bool) : Nat :=
  ∑ v ∈ Finset.range n, if met v then 0 else work v

variable {n : Nat} {work : Nat → Nat} {met met' : Nat → Bool}

/-- While nothing was met, all the work is ahead. -/
theorem pending_none (h : ∀ v < n, met v = false) :
    pending n work met = ((List.range n).map work).foldl (· + ·) 0 := by
  have hsum : pending n work met = ∑ v ∈ Finset.range n, work v :=
    Finset.sum_congr rfl fun v hv => by simp [h v (Finset.mem_range.mp hv)]
  rw [hsum, ← List.sum_eq_foldl_nat]
  rfl

/-- Meeting one more takes its work off, and one beyond the end had none. -/
theorem pending_meet {v : Nat} (hv : met v = false) (hmet : ∀ u, met' u = (u == v || met u))
    (hwork : n ≤ v → work v = 0) : pending n work met' + work v = pending n work met := by
  have hother (u) (hu : u ≠ v) : met' u = met u := by simp [hmet, hu]
  unfold pending
  by_cases hlt : v < n
  · have hmem := Finset.mem_range.mpr hlt
    rw [← Finset.add_sum_erase _ _ hmem, ← Finset.add_sum_erase _ _ hmem, if_pos (by simp [hmet]),
      hv, if_neg Bool.false_ne_true, Nat.zero_add, Nat.add_comm]
    congr 1
    exact Finset.sum_congr rfl fun u hu => by rw [hother u (Finset.ne_of_mem_erase hu)]
  · rw [hwork (by omega), Nat.add_zero]
    refine Finset.sum_congr rfl fun u hu => ?_
    rw [hother u (by have := Finset.mem_range.mp hu; omega)]

end GramSieve
