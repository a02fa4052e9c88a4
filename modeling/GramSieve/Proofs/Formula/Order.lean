import GramSieve.Proofs.Formula.Truth
import Mathlib.Data.List.Permutation

namespace GramSieve

/-!
# The order of formulas

* `Formula.compare_swap`, `Formula.compare_of_between` — turning a comparison around turns its result
  around, and what is between two formulas says how these compare.
* `Formula.eq_of_compare` — only a formula itself compares equal to it.
* The instances that say so: the order of formulas is total and tells all formulas apart if the order
  of the values of their leaves does.
* `Formula.ascending_operandSet`, `Formula.operandSet_congr` — operands as a set ascend, and the set
  depends on nothing but the members.
* `Formula.compare_lawful` — so formulas are equal as nested sets, whatever their keys and hints are.
-/

/-! ### Comparing one after the other -/

/-- Where the first two of three comparisons are not greater, the third is found from them. Comparing
by one thing and then by another keeps this. -/
theorem then_of_isLE {ab ab' bc bc' ac ac' : Ordering}
    (h : ab.isLE = true → bc.isLE = true → ac = ab.then bc)
    (h' : ab'.isLE = true → bc'.isLE = true → ac' = ab'.then bc')
    (hab : (ab.then ab').isLE = true) (hbc : (bc.then bc').isLE = true) :
    ac.then ac' = (ab.then ab').then (bc.then bc') := by
  cases ab <;> cases bc <;> cases ab' <;> simp_all

/-- What is between two others in a total order says how these compare. -/
theorem compare_of_isLE {β : Type} [Ord β] [Std.TransOrd β] {a b c : β}
    (hab : (compare a b).isLE = true) (hbc : (compare b c).isLE = true) :
    compare a c = (compare a b).then (compare b c) := by
  cases h : compare a b with
  | lt => exact Std.TransCmp.lt_of_lt_of_isLE h hbc
  | eq => exact Std.TransCmp.congr_left h
  | gt =>
    rw [h] at hab
    cases hab

namespace Formula

open Hinted (hint)

variable {α : Type} [DecidableEq α] [Ord α] [Hinted α]

/-! ### Comparing formulas -/

theorem compare_refl (a : Formula α) : a.compare a = .eq := by
  cases a <;> simp [Formula.compare]

theorem compareList_refl (xs : List (Formula α)) : Formula.compareList xs xs = .eq := by
  induction xs with
  | nil => rfl
  | cons x xs ih => rw [Formula.compareList, compare_refl, ih, Ordering.eq_then]

/-- Formulas of different kinds compare by rank. -/
theorem compare_of_rank_ne {a b : Formula α} (h : a.rank ≠ b.rank) :
    a.compare b = compare a.rank b.rank := by
  have hne : a ≠ b := fun hab => h (congrArg rank hab)
  have hrank : compare a.rank b.rank ≠ .eq := fun heq => h (Nat.compare_eq_eq.mp heq)
  rw [Formula.compare.eq_def, if_neg hne]
  cases hcmp : compare a.rank b.rank with
  | eq => exact absurd hcmp hrank
  | lt | gt => rfl

/-- Leaves are compared by their hints, their values and their keys, in this order. The shortcut for
equal leaves agrees with this. -/
theorem compare_atom [Std.ReflOrd α] (k l : UInt64) (x y : α) :
    (Formula.atom k x).compare (.atom l y) =
      (compare (hint (atom k x)) (hint (atom l y))).then ((compare x y).then (compare k l)) := by
  rw [Formula.compare]
  split
  · rename_i h
    cases h
    simp
  · simp [rank]

/-- Composites of one kind are compared by their hints, their operands and their keys, in this order. -/
theorem compare_node (kind : Connective) (k l : UInt64) (xs ys : List (Formula α)) :
    (Formula.node kind k xs).compare (.node kind l ys) =
      (compare (hint (node kind k xs)) (hint (node kind l ys))).then
        ((Formula.compareList xs ys).then (compare k l)) := by
  rw [Formula.compare]
  split
  · rename_i h
    cases h
    simp [compareList_refl]
  · cases kind <;> simp [rank]

/-- Formulas of different shape are in the order of their shapes. -/
theorem rank_le_of_isLE {a b : Formula α} (h : (a.compare b).isLE = true) : a.rank ≤ b.rank := by
  by_cases hrank : a.rank = b.rank
  · exact hrank.le
  · rw [compare_of_rank_ne hrank] at h
    exact Nat.isLE_compare.mp h

/-- A formula of an earlier shape comes first, whatever is in it. -/
theorem compare_of_rank_lt {a b : Formula α} (h : a.rank < b.rank) : a.compare b = .lt := by
  rw [compare_of_rank_ne h.ne]
  exact Nat.compare_eq_lt.mpr h

/-! ### The order is lawful -/

mutual

/-- Only a formula itself compares equal to it. -/
theorem eq_of_compare [Std.LawfulEqOrd α] (a b : Formula α) (h : a.compare b = .eq) : a = b := by
  by_cases hrank : a.rank = b.rank
  · match a, b with
    | .const true, .const true | .const false, .const false => rfl
    | .atom k x, .atom l y =>
      rw [compare_atom, Ordering.then_eq_eq, Ordering.then_eq_eq,
        Std.LawfulEqOrd.compare_eq_iff_eq (a := x), Std.LawfulEqOrd.compare_eq_iff_eq (a := k)] at h
      rw [h.2.1, h.2.2]
    | .node .and k xs, .node .and l ys | .node .or k xs, .node .or l ys =>
      rw [compare_node, Ordering.then_eq_eq, Ordering.then_eq_eq,
        Std.LawfulEqOrd.compare_eq_iff_eq (a := k)] at h
      rw [eq_of_compareList xs ys h.2.1, h.2.2]
  · rw [compare_of_rank_ne hrank] at h
    exact absurd (Nat.compare_eq_eq.mp h) hrank

/-- Only lists of the same formulas compare as equal. -/
theorem eq_of_compareList [Std.LawfulEqOrd α] (xs ys : List (Formula α))
    (h : Formula.compareList xs ys = .eq) : xs = ys := by
  match xs, ys with
  | [], [] => rfl
  | [], _ :: _ | _ :: _, [] => cases h
  | x :: xs, y :: ys =>
    rw [Formula.compareList, Ordering.then_eq_eq] at h
    rw [eq_of_compare x y h.1, eq_of_compareList xs ys h.2]

end

mutual

/-- Turning a comparison around turns its result around. -/
theorem compare_swap [Std.TransOrd α] (a b : Formula α) : a.compare b = (b.compare a).swap := by
  by_cases hrank : a.rank = b.rank
  · match a, b with
    | .const true, .const true | .const false, .const false => rw [compare_refl, Ordering.swap_eq]
    | .atom k x, .atom l y =>
      rw [compare_atom, compare_atom, Ordering.swap_then, Ordering.swap_then,
        ← Std.OrientedCmp.eq_swap, ← Std.OrientedCmp.eq_swap, ← Std.OrientedCmp.eq_swap]
    | .node .and k xs, .node .and l ys | .node .or k xs, .node .or l ys =>
      rw [compare_node, compare_node, Ordering.swap_then, Ordering.swap_then,
        ← compareList_swap xs ys, ← Std.OrientedCmp.eq_swap, ← Std.OrientedCmp.eq_swap]
  · rw [compare_of_rank_ne hrank, compare_of_rank_ne (Ne.symm hrank)]
    exact Std.OrientedCmp.eq_swap

/-- Comparing two lists the other way round gives the opposite. -/
theorem compareList_swap [Std.TransOrd α] (xs ys : List (Formula α)) :
    Formula.compareList xs ys = (Formula.compareList ys xs).swap := by
  match xs, ys with
  | [], [] | [], _ :: _ | _ :: _, [] => rfl
  | x :: xs, y :: ys =>
    rw [Formula.compareList, Formula.compareList, Ordering.swap_then, ← compare_swap x y,
      ← compareList_swap xs ys]

end

mutual

/-- What is between two formulas says how they compare. -/
theorem compare_of_between [Std.TransOrd α] (a b c : Formula α) (hab : (a.compare b).isLE = true)
    (hbc : (b.compare c).isLE = true) : a.compare c = (a.compare b).then (b.compare c) := by
  -- Formulas of one shape are compared step by step. If the shapes differ, they decide alone, and `b`
  -- cannot be of a shape before that of `a` or behind that of `c`.
  by_cases hrank : a.rank = b.rank ∧ b.rank = c.rank
  · match a, b, c with
    | .const true, .const true, .const true | .const false, .const false, .const false =>
      rw [compare_refl, Ordering.eq_then]
    | .atom k x, .atom l y, .atom m z =>
      rw [compare_atom, compare_atom] at *
      rw [compare_atom]
      exact then_of_isLE compare_of_isLE (then_of_isLE compare_of_isLE compare_of_isLE) hab hbc
    | .node .and k xs, .node .and l ys, .node .and m zs
    | .node .or k xs, .node .or l ys, .node .or m zs =>
      rw [compare_node, compare_node] at *
      rw [compare_node]
      exact then_of_isLE compare_of_isLE
        (then_of_isLE (compareList_of_between xs ys zs) compare_of_isLE) hab hbc
  · have hle := rank_le_of_isLE hab
    have hle' := rank_le_of_isLE hbc
    by_cases hlt : a.rank < b.rank
    · rw [compare_of_rank_lt hlt, compare_of_rank_lt (hlt.trans_le hle')]
      rfl
    · have hlt' : b.rank < c.rank := by omega
      rw [compare_of_rank_lt hlt', compare_of_rank_lt (hle.trans_lt hlt')]
      cases hcmp : a.compare b <;> rw [hcmp] at hab <;> first | rfl | cases hab

/-- A list between two others tells how these compare, as a formula between two others does. -/
theorem compareList_of_between [Std.TransOrd α] (xs ys zs : List (Formula α))
    (hxy : (Formula.compareList xs ys).isLE = true) (hyz : (Formula.compareList ys zs).isLE = true) :
    Formula.compareList xs zs = (Formula.compareList xs ys).then (Formula.compareList ys zs) := by
  match xs, ys, zs with
  | [], [], zs => rfl
  | [], _ :: _, _ :: _ => rfl
  | _, _ :: _, [] => cases hyz
  | _ :: _, [], _ => cases hxy
  | x :: xs, y :: ys, z :: zs =>
    exact then_of_isLE (compare_of_between x y z) (compareList_of_between xs ys zs) hxy hyz

end

instance [Std.TransOrd α] : Std.TransOrd (Formula α) where
  eq_swap := compare_swap _ _
  isLE_trans {a b c} hab hbc := by
    show (a.compare c).isLE = true
    rw [compare_of_between a b c hab hbc]
    exact Ordering.isLE_then_iff_and.mpr ⟨hab, .inr hbc⟩

/-- Of any two formulas, one comes before the other or both are the same. -/
theorem compare_total [Std.TransOrd α] (a b : Formula α) :
    (compare a b).isLE = true ∨ (compare b a).isLE = true := by
  have hswap : compare b a = (compare a b).swap := Std.OrientedCmp.eq_swap
  rw [hswap]
  cases compare a b <;> simp

instance [Std.LawfulEqOrd α] : Std.LawfulEqOrd (Formula α) where
  compare_self := compare_refl _
  eq_of_compare := eq_of_compare _ _

/-! ### Operands as a set -/

/-- Operands in ascending order, without repetition. -/
abbrev Ascending (fs : List (Formula α)) : Prop := fs.Pairwise fun a b => compare a b = .lt

variable [Std.LawfulEqOrd α] {fs gs : List (Formula α)}

/-- Operands in ascending order are distinct. -/
theorem Ascending.nodup (h : Ascending fs) : fs.Nodup := by
  refine h.imp fun {a b} hlt heq => ?_
  rw [Std.LawfulEqOrd.compare_eq_iff_eq.mpr heq] at hlt
  cases hlt

variable [Std.TransOrd α]

/-- Operands as a set ascend. -/
theorem ascending_operandSet (fs : List (Formula α)) : Ascending (operandSet fs) := by
  have htotal (a b : Formula α) : ((compare a b).isLE || (compare b a).isLE) = true := by
    rw [Bool.or_eq_true]
    exact compare_total a b
  have hsorted := List.pairwise_mergeSort (fun _ _ _ => Std.TransCmp.isLE_trans) htotal fs
  have : Trans (fun a b : Formula α => compare a b = .lt) (fun a b => compare a b = .lt)
      (fun a b => compare a b = .lt) := ⟨Std.TransCmp.lt_trans⟩
  refine pairwise_eraseReps (fun a b hle hne => ?_) hsorted
  cases hcmp : compare a b with
  | lt => rfl
  | eq => exact absurd (Std.LawfulEqOrd.compare_eq_iff_eq.mp hcmp) hne
  | gt =>
    rw [hcmp] at hle
    cases hle

theorem nodup_operandSet (fs : List (Formula α)) : (operandSet fs).Nodup :=
  (ascending_operandSet fs).nodup

/-- Ascending operands are the same if they have the same members. -/
theorem Ascending.eq_of_mem_iff (hfs : Ascending fs) (hgs : Ascending gs)
    (h : ∀ f, f ∈ fs ↔ f ∈ gs) : fs = gs := by
  refine List.Perm.eq_of_pairwise (fun a b _ _ hab hba => ?_) hfs hgs
    ((List.perm_ext_iff_of_nodup hfs.nodup hgs.nodup).mpr h)
  exact absurd hba (Std.OrientedCmp.not_lt_of_lt hab)

/-- Which operands there are decides what they are as a set. -/
theorem operandSet_congr (h : ∀ f, f ∈ fs ↔ f ∈ gs) : operandSet fs = operandSet gs :=
  (ascending_operandSet fs).eq_of_mem_iff (ascending_operandSet gs) fun f => by
    rw [mem_operandSet, mem_operandSet, h]

@[simp] theorem operandSet_operandSet (fs : List (Formula α)) :
    operandSet (operandSet fs) = operandSet fs :=
  operandSet_congr fun _ => mem_operandSet

/-- A composite depends on the set of its operands only. -/
theorem composite_congr (kind : Connective) (h : ∀ f, f ∈ fs ↔ f ∈ gs) :
    composite kind fs = composite kind gs := by
  unfold composite
  rw [operandSet_congr h]

/-- Composites are the same if they have the same connective and the same set of operands. -/
theorem composite_eq_iff {kind kind' : Connective} :
    composite kind fs = composite kind' gs ↔ kind = kind' ∧ ∀ f, f ∈ fs ↔ f ∈ gs := by
  constructor
  · intro h
    have hkind : some kind = some kind' := congrArg kind? h
    have hset : operandSet fs = operandSet gs := congrArg operands h
    refine ⟨Option.some.inj hkind, fun f => ?_⟩
    rw [← mem_operandSet, hset, mem_operandSet]
  · rintro ⟨rfl, h⟩
    exact composite_congr kind h

/-- **Formulas are compared as nested sets.** Whatever the keys of the leaves are and whether the order
looks at keys or at another hint first, the order is total and calls nothing equal but a formula and
itself. The operands of a composite strictly ascend in it. Leaves are equal if their values are, and
composites if they have the same connective and each operand that was given to one of them equals one that
was given to the other, in any order and any number of times. Equal formulas have the same key. -/
theorem compare_lawful [Keyed α] :
    (∀ f : Formula α, compare f f = .eq) ∧
    (∀ f g : Formula α, (compare f g).isLE = true → (compare g f).isLE = true → compare f g = .eq) ∧
    (∀ f g h : Formula α, (compare f g).isLE = true → (compare g h).isLE = true →
      (compare f h).isLE = true) ∧
    (∀ f g : Formula α, (compare f g).isLE = true ∨ (compare g f).isLE = true) ∧
    (∀ f g : Formula α, compare f g = .eq ↔ f = g) ∧
    (∀ kind (fs : List (Formula α)),
      (composite kind fs).operands.Pairwise fun f g => compare f g = .lt) ∧
    (∀ x y : α, compare (leaf x) (leaf y) = .eq ↔ x = y) ∧
    (∀ kind kind' (fs gs : List (Formula α)),
      compare (composite kind fs) (composite kind' gs) = .eq ↔
        kind = kind' ∧ (∀ f ∈ fs, ∃ g ∈ gs, compare f g = .eq) ∧
          ∀ g ∈ gs, ∃ f ∈ fs, compare g f = .eq) ∧
    ∀ f g : Formula α, compare f g = .eq → f.key = g.key ∧ hint f = hint g := by
  -- All laws come from two: the order is transitive, and only a formula itself compares as equal to
  -- it.
  have heq (f g : Formula α) : compare f g = .eq ↔ f = g := Std.LawfulEqCmp.compare_eq_iff_eq
  refine ⟨fun f => Std.ReflCmp.compare_self, fun f g => Std.OrientedCmp.isLE_antisymm,
    fun f g h => Std.TransCmp.isLE_trans, compare_total, heq, fun kind fs => ascending_operandSet fs,
    fun x y => (heq _ _).trans leaf_inj, fun kind kind' fs gs => ?_, fun f g h => ?_⟩
  · rw [heq, composite_eq_iff]
    refine and_congr_right fun _ => ?_
    simp only [heq, exists_eq_right']
    exact ⟨fun h => ⟨fun f => (h f).mp, fun f => (h f).mpr⟩, fun h f => ⟨h.1 f, h.2 f⟩⟩
  · obtain rfl := (heq f g).mp h
    exact ⟨rfl, rfl⟩

/-- Three conjunctions with the key as their hint, where all leaves have the same key. -/
theorem compare_lawful_collision :
    let _ : Keyed Nat := ⟨fun _ => 7⟩
    let _ : Hinted Nat := ⟨key⟩
    let f : Formula Nat := composite .and [leaf 2, leaf 1, leaf 2]
    Std.TransOrd Nat ∧ Std.LawfulEqOrd Nat ∧
      compare f (composite .and [leaf 1, leaf 2]) = .eq ∧
      f.key = (composite .and [leaf 1, leaf 3] : Formula Nat).key ∧
      compare f (composite .and [leaf 1, leaf 3]) ≠ .eq := by
  intro _ _ f
  obtain ⟨-, -, -, -, -, -, hleaf, hcomposite, -⟩ := compare_lawful (α := Nat)
  -- All keys of leaves are the same, so the formulas have to be compared by what is in them.
  refine ⟨inferInstance, inferInstance, ?_, by cbv, fun heq => ?_⟩
  · refine (hcomposite .and .and _ _).mpr ⟨rfl, ?_, ?_⟩ <;> simp
  · obtain ⟨-, h, -⟩ := (hcomposite .and .and _ _).mp heq
    obtain ⟨g, hg, h⟩ := h (leaf 2) (.head _)
    simp at hg
    obtain rfl | rfl := hg <;> simp [hleaf] at h

end Formula

end GramSieve
