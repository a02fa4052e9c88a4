import GramSieve.Proofs.Formula.Truth
import Mathlib.Algebra.BigOperators.Ring.List
import Mathlib.Algebra.Order.BigOperators.Group.List
import Mathlib.Tactic.Linarith

namespace GramSieve.Formula

/-!
# The size of formulas

* `leafCount_node`, `treeSize_node` — a composite is as large as its operands together.
* `clauseCount_eq_min` — the clauses are the leaves, up to the largest count.
* `sum_operandSet_le` — operands do not get larger by becoming a set.
-/

variable {α : Type} [DecidableEq α]

/-! ### Leaves and nodes -/

@[simp] theorem leafCount_const (value : Bool) : (.const value : Formula α).leafCount = 0 := rfl

@[simp] theorem leafCount_atom (key : UInt64) (x : α) : (.atom key x : Formula α).leafCount = 1 := rfl

@[simp] theorem leafCount_node (kind : Connective) (key : UInt64) (fs : List (Formula α)) :
    (.node kind key fs : Formula α).leafCount = (fs.map leafCount).sum := by
  have hcount : (leafCount : Formula α → Nat) = fold leafCounts := funext (foldShared_eq_fold _)
  rw [hcount, fold, foldList_eq_map]
  rfl

@[simp] theorem treeSize_node (kind : Connective) (key : UInt64) (fs : List (Formula α)) :
    (.node kind key fs : Formula α).treeSize = (fs.map treeSize).sum + 1 := by
  have hsize : (treeSize : Formula α → Nat) = fold sizes := funext (foldShared_eq_fold _)
  have hsum (counts : List Nat) : counts.foldr (· + ·) 1 = counts.sum + 1 := by
    induction counts with
    | nil => rfl
    | cons n counts ih => rw [List.foldr_cons, ih, List.sum_cons, Nat.add_assoc]
  rw [hsize, fold, foldList_eq_map]
  exact hsum _

/-- Every formula counts at least itself. -/
theorem treeSize_pos (f : Formula α) : 0 < f.treeSize := by
  cases f with
  | const | atom => exact Nat.one_pos
  | node kind key fs =>
    rw [treeSize_node]
    exact Nat.succ_pos _

/-- What is a part of a sum is at most the sum. -/
theorem le_sum_map_of_mem {β : Type} {size : β → Nat} {xs : List β} {x : β} (hx : x ∈ xs) :
    size x ≤ (xs.map size).sum :=
  List.single_le_sum (fun _ _ => Nat.zero_le _) _ (List.mem_map_of_mem hx)

/-! ### Clauses -/

/-- Adding up with a cap at every step is the sum with a cap at the end. -/
theorem cappedSum_eq (counts : List Nat) : cappedSum counts = min counts.sum maxCount := by
  have hfold : ∀ sum, counts.foldl (fun sum n => min maxCount (sum + n)) (min sum maxCount) =
      min (sum + counts.sum) maxCount := by
    induction counts with
    | nil => exact fun _ => rfl
    | cons n counts ih =>
      intro sum
      rw [List.foldl_cons, List.sum_cons, ← Nat.add_assoc, ← ih (sum + n)]
      congr 1
      omega
  rw [cappedSum, ← Nat.zero_add counts.sum, ← hfold 0, Nat.zero_min]

/-- The sum of some counts that stop at the largest count stops there as well. -/
theorem min_sum_map_min {β : Type} (count : β → Nat) (limit : Nat) (xs : List β) :
    min (xs.map fun x => min (count x) limit).sum limit = min (xs.map count).sum limit := by
  induction xs with
  | nil => rfl
  | cons x xs ih =>
    simp only [List.map_cons, List.sum_cons]
    omega

/-- The clauses of a formula are its leaves, as far as a machine word can count them. -/
theorem clauseCount_eq_min (f : Formula α) : f.clauseCount = min f.leafCount maxCount := by
  cases f with
  | const | atom => rfl
  | node kind key fs =>
    have hcount (g : Formula α) : g.fold clauseCounts = g.clauseCount :=
      (foldShared_eq_fold _ g).symm
    rw [clauseCount, foldShared_eq_fold, fold, foldList_eq_map, leafCount_node]
    refine (cappedSum_eq _).trans ?_
    rw [← min_sum_map_min leafCount]
    congr 2
    exact List.map_congr_left fun g _ => (hcount g).trans (clauseCount_eq_min g)
termination_by f

/-! ### Operands as a set -/

variable [Ord α] [Hinted α]

/-- A set of operands has no operand more often than it was given. -/
theorem operandSet_subperm (fs : List (Formula α)) : (operandSet fs).Subperm fs :=
  (eraseReps_sublist _).subperm.trans (List.mergeSort_perm _ _).subperm

/-- What is left of a list, in whatever order, does not make up for more than the list. -/
theorem sum_map_le_of_subperm {β : Type} (size : β → Nat) {xs ys : List β} (h : xs.Subperm ys) :
    (xs.map size).sum ≤ (ys.map size).sum := by
  obtain ⟨zs, hperm, hsub⟩ := h
  rw [← (hperm.map size).sum_eq]
  exact (hsub.map size).sum_le_sum fun _ _ => Nat.zero_le _

/-- Operands do not get larger by becoming a set. -/
theorem sum_operandSet_le (size : Formula α → Nat) (fs : List (Formula α)) :
    ((operandSet fs).map size).sum ≤ (fs.map size).sum :=
  sum_map_le_of_subperm size (operandSet_subperm fs)

/-- Removing operands that repeat adds no leaves. -/
theorem leafCount_composite_le (kind : Connective) (fs : List (Formula α)) :
    (composite kind fs).leafCount ≤ (fs.map leafCount).sum :=
  (leafCount_node kind _ _).trans_le (sum_operandSet_le leafCount fs)

/-- Nor does it make the formula larger. -/
theorem treeSize_composite_le (kind : Connective) (fs : List (Formula α)) :
    (composite kind fs).treeSize ≤ (fs.map treeSize).sum + 1 :=
  (treeSize_node kind _ _).trans_le (Nat.add_le_add_right (sum_operandSet_le treeSize fs) 1)

end GramSieve.Formula
