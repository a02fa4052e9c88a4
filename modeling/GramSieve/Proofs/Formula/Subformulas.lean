import GramSieve.Proofs.Formula.Truth
import Mathlib.Data.List.Dedup

namespace GramSieve.Formula

/-!
# The formulas within a formula

* `subformulas` — a formula and all that is below it, once for every path to it.
* `mem_subformulas_node` — what is within a composite.
* `IsTrivial`, `distinctLeaves` — the two reasons for which a formula without negation can hold: that
  something within it always does, or that one of its leaves does.
* `exists_of_holds` — a formula that holds has one of them.
-/

variable {α : Type}

mutual

/-- The formulas that are reached from a formula, itself included, once for every path to them. -/
def subformulas : Formula α → List (Formula α)
  | .const value => [.const value]
  | .atom key value => [.atom key value]
  | .node kind key operands => .node kind key operands :: subformulasList operands

/-- The formulas that are reached from some operands. -/
def subformulasList : List (Formula α) → List (Formula α)
  | [] => []
  | f :: fs => subformulas f ++ subformulasList fs

end

/-- Holds whatever the leaves are: `true`, or a conjunction of nothing. -/
def IsTrivial : Formula α → Prop
  | .const value => value = true
  | .atom _ _ => False
  | .node kind _ operands => kind = .and ∧ operands = []

/-- The leaves that are reached from a formula, each once. -/
def distinctLeaves [DecidableEq α] (f : Formula α) : List (Formula α) :=
  (f.subformulas.filter (·.leaf?.isSome)).dedup

variable {kind : Connective} {key : UInt64} {f g : Formula α} {fs : List (Formula α)}

/-! ### Composites -/

theorem subformulasList_eq_flatMap (fs : List (Formula α)) :
    subformulasList fs = fs.flatMap subformulas := by
  induction fs with
  | nil => rfl
  | cons f fs ih => rw [subformulasList, ih, List.flatMap_cons]

/-- Within a constant or a leaf there is only itself. -/
theorem mem_subformulas_of_kind?_eq_none (hf : f.kind? = none) : g ∈ f.subformulas ↔ g = f := by
  cases f with
  | const | atom => exact List.mem_singleton
  | node => cases hf

/-- Within a composite there are itself and what is within its operands. -/
theorem mem_subformulas_node :
    g ∈ (Formula.node kind key fs).subformulas ↔
      g = .node kind key fs ∨ ∃ f ∈ fs, g ∈ f.subformulas := by
  rw [subformulas, List.mem_cons, subformulasList_eq_flatMap, List.mem_flatMap]

theorem self_mem_subformulas (f : Formula α) : f ∈ f.subformulas := by
  cases f with
  | const | atom => exact List.mem_singleton_self _
  | node => exact List.mem_cons_self

theorem mem_subformulas_of_mem (hf : f ∈ fs) (hg : g ∈ f.subformulas) :
    g ∈ (Formula.node kind key fs).subformulas :=
  mem_subformulas_node.mpr (.inr ⟨f, hf, hg⟩)

/-- What is within a formula within another one is within the other one. -/
theorem mem_subformulas_trans {f g h : Formula α} (hh : h ∈ g.subformulas) (hg : g ∈ f.subformulas) :
    h ∈ f.subformulas := by
  match f with
  | .const _ | .atom _ _ => rwa [List.mem_singleton.mp hg] at hh
  | .node kind key fs =>
    obtain rfl | ⟨f, hf, hg⟩ := mem_subformulas_node.mp hg
    · exact hh
    · exact mem_subformulas_of_mem hf (mem_subformulas_trans hh hg)

/-! ### Reasons to hold -/

theorem mem_distinctLeaves [DecidableEq α] :
    g ∈ f.distinctLeaves ↔ g ∈ f.subformulas ∧ g.leaf?.isSome = true := by
  rw [distinctLeaves, List.mem_dedup, List.mem_filter]

theorem nodup_distinctLeaves [DecidableEq α] (f : Formula α) : f.distinctLeaves.Nodup :=
  List.nodup_dedup _

/-- Where a formula holds, something within it does whatever the leaves are, or one of its leaves does:
without negation there is no other reason. -/
theorem exists_of_holds {truth : α → Bool} {f : Formula α} (h : Holds truth f) :
    (∃ g ∈ f.subformulas, g.IsTrivial) ∨
      ∃ g ∈ f.subformulas, g.leaf?.isSome = true ∧ Holds truth g := by
  match f with
  | .const value => exact .inl ⟨_, self_mem_subformulas _, (holds_const value).mp h⟩
  | .atom key value => exact .inr ⟨_, self_mem_subformulas _, rfl, h⟩
  | .node kind key fs =>
    by_cases hempty : kind = .and ∧ fs = []
    · exact .inl ⟨_, self_mem_subformulas _, hempty⟩
    · obtain ⟨f, hf, hholds⟩ := exists_holds_operand h hempty
      obtain ⟨g, hg, htrivial⟩ | ⟨g, hg, hleaf⟩ := exists_of_holds hholds
      · exact .inl ⟨g, mem_subformulas_of_mem hf hg, htrivial⟩
      · exact .inr ⟨g, mem_subformulas_of_mem hf hg, hleaf⟩

end GramSieve.Formula
