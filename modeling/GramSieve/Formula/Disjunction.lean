import GramSieve.Formula.Simplify
import Std.Data.HashSet

namespace GramSieve.Formula

/-!
# Weakening a formula to a disjunction

* `Reached`, `collect` — a walk over a formula, which finds its leaves or a reason to give up.
* `disjunction` — the disjunction of all the leaves, which holds where the formula does.
-/

variable {α : Type}

/-- What a walk over a formula has met: leaves, and composites that it need not go into again. -/
structure Reached (α : Type) [DecidableEq α] where
  composites : Std.HashSet (Formula α) := ∅
  leaves : Std.HashSet (Formula α) := ∅

theorem sizeOf_lt_cons (f : Formula α) (stack : List (Formula α)) :
    sizeOf stack < sizeOf (f :: stack) := by
  rw [List.cons.sizeOf_spec]
  omega

theorem sizeOf_reverse_append (fs stack : List (Formula α)) :
    sizeOf (fs.reverse ++ stack) + 1 = sizeOf fs + sizeOf stack := by
  induction fs generalizing stack with
  | nil => exact Nat.add_comm _ _
  | cons f fs ih =>
    rw [List.reverse_cons, List.append_assoc, List.singleton_append, ih, List.cons.sizeOf_spec,
      List.cons.sizeOf_spec]
    omega

/-- A composite is larger than its operands. -/
theorem sizeOf_operands_lt (kind : Connective) (key : UInt64) (fs stack : List (Formula α)) :
    sizeOf (fs.reverse ++ stack) < sizeOf (Formula.node kind key fs :: stack) := by
  have := sizeOf_reverse_append fs stack
  rw [List.cons.sizeOf_spec, Formula.node.sizeOf_spec]
  omega

variable [DecidableEq α]

/-- Goes through the formulas of a stack and their operands and collects the leaves. It gives up at
`true`, at a conjunction of nothing, which is as good as `true`, and at more leaves than `maxClauses`. -/
def collect (maxClauses : Nat) (stack : List (Formula α)) (reached : Reached α) :
    Option (List (Formula α)) :=
  match stack with
  | [] => some reached.leaves.toList
  | .const value :: stack => if value then none else collect maxClauses stack reached
  | .atom key value :: stack =>
    let leaves := reached.leaves.insert (.atom key value)
    if maxClauses < leaves.size then none else collect maxClauses stack { reached with leaves }
  | .node kind key operands :: stack =>
    if .node kind key operands ∈ reached.composites then collect maxClauses stack reached
    else if kind = .and ∧ operands = [] then none
    else
      let composites := reached.composites.insert (.node kind key operands)
      collect maxClauses (operands.reverse ++ stack) { reached with composites }
termination_by sizeOf stack
decreasing_by
  · exact sizeOf_lt_cons _ stack
  · exact sizeOf_lt_cons _ stack
  · exact sizeOf_lt_cons _ stack
  · rw [List.unattach_reverse, List.unattach_attach]
    exact sizeOf_operands_lt kind key operands stack

/-- The disjunction of the leaves of a formula, or `true` if there are more than `maxClauses`. It
holds wherever the formula does: without negation and without `true`, a formula only holds if one
of its leaves does. -/
def disjunction [Ord α] [Hinted α] (maxClauses : Nat) (f : Formula α) : Formula α :=
  match collect maxClauses [f] {} with
  | some leaves => simplify (composite .or leaves)
  | none => .const true

end GramSieve.Formula
