import GramSieve.Formula.Fold

namespace GramSieve.Formula

/-!
# The text of a formula

* `render` — with the operands between brackets, joined by `AND` or `OR`.
* `renderStructure` — with the names of the connectives before their operands.
-/

variable {α : Type}

/-- The text of a formula: `(a AND (b OR c))`. -/
def render (text : α → String) : Formula α → String :=
  fold {
    const := fun value => if value then "true" else "false"
    leaf := text
    node := fun kind parts =>
      let word := match kind with | .and => " AND " | .or => " OR "
      "(" ++ word.intercalate parts ++ ")" }

/-- The build of a formula: `And([Leaf(a), Or([Leaf(b), Leaf(c)])])`. -/
def renderStructure (text : α → String) : Formula α → String :=
  fold {
    const := fun value => if value then "True" else "False"
    leaf := fun value => "Leaf(" ++ text value ++ ")"
    node := fun kind parts => kind.name ++ "([" ++ ", ".intercalate parts ++ "])" }

/-- Whether no composite that is reached has two operands of one rank. -/
def isMixed : Formula α → Bool
  | .node _ _ operands => mixedList operands && (operands.map rank).Nodup
  | _ => true
where
  /-- Whether all of some operands are mixed. -/
  mixedList : List (Formula α) → Bool
    | [] => true
    | f :: fs => isMixed f && mixedList fs

end GramSieve.Formula
