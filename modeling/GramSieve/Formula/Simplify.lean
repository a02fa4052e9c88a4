import GramSieve.BinarySearch
import GramSieve.Formula.Fold

namespace GramSieve.Formula

/-!
# Simpler formulas of the same meaning

* `parts` — the operands of a formula as a composite of a given connective.
* `common`, `factor?` — pulling out what all operands of a composite of composites share.
* `simplify` — a formula without constants below the root, nested composites of one connective,
  single operands or common parts.
-/

variable {α : Type} [DecidableEq α] [Ord α] [Hinted α]

/-- The operands of a formula as a composite of `kind`: its own, or the formula itself. -/
def parts (kind : Connective) (f : Formula α) : List (Formula α) :=
  if f.kind? = some kind then f.operands else [f]

/-- The parts that all the formulas of a list have: those of the first one, as a set, that are also
found in each of the others. Operands ascend, so a binary search finds them. -/
def common (kind : Connective) : List (Formula α) → List (Formula α)
  | [] => []
  | f :: fs =>
    fs.foldl (fun shared g =>
      if shared.isEmpty then [] else shared.filter (containsSorted (parts kind g).toArray))
      (operandSet (parts kind f))

/-- Pulls the parts that all operands have out of a composite of `kind`, if some operand is a
composite of the other connective: `(a ∧ b) ∨ (a ∧ c)` becomes `a ∧ (b ∨ c)`, but written with
composites for the remainders, which may be empty. -/
def factor? (kind : Connective) (operands : List (Formula α)) : Option (Formula α) :=
  let dual := kind.dual
  if operands.any fun f => f.kind? = some dual then
    match common dual operands with
    | [] => none
    | shared =>
      let remainder (f : Formula α) := composite dual ((parts dual f).filter (!shared.contains ·))
      some (composite dual (shared ++ [composite kind (operands.map remainder)]))
  else none

/-- What stays of the simplified operands of a composite of `kind`: units go, nested composites of
the same connective give their operands. A constant that decides the composite takes its place. -/
def flatten (kind : Connective) : List (Formula α) → Bool ⊕ List (Formula α)
  | [] => .inr []
  | .const value :: rest =>
    if value = kind.unit then flatten kind rest else .inl value
  | f :: rest =>
    match flatten kind rest with
    | .inl value => .inl value
    | .inr kept => .inr (parts kind f ++ kept)

/-- The simplified forms that are known so far. -/
abbrev Simplified (α : Type) [DecidableEq α] := Memo α (Formula α)

/-- Joins simplified operands of a composite of `kind`, up to factoring. -/
def join (kind : Connective) (operands : List (Formula α)) : Formula α :=
  match flatten kind operands with
  | .inl value => .const value
  | .inr kept =>
    let joined := composite kind kept
    match joined.operands with
    | [] => .const kind.unit
    | [single] => single
    | _ => joined

/-- Simplifies a formula in at most `fuel` nested steps. -/
def simplifyMemo : Nat → Formula α → StateM (Simplified α) (Formula α)
  | fuel + 1, f =>
    match f with
    | .node kind _ operands => do
      match (← get)[f]? with
      | some known => return known
      | none =>
        let joined := join kind (← operands.mapM (simplifyMemo fuel))
        let factored? := if joined.kind? = some kind then factor? kind joined.operands else none
        let result ← match factored? with
          | some factored => simplifyMemo fuel factored
          | none => pure joined
        let result := if result = f then f else result
        modify (·.insert f result)
        return result
    | _ => return f
  | 0, f => return f

/-- A simpler formula of the same meaning. Factoring leaves fewer leaves, so the steps suffice. -/
def simplify (f : Formula α) : Formula α :=
  let leaves := f.leafCount
  (Id.run ((simplifyMemo (f.treeSize + 4 * (leaves * leaves)) f).run ∅)).1

end GramSieve.Formula
