import GramSieve.Formula.Fold
import GramSieve.Text.Quoted

namespace GramSieve

/-!
# Queries for documents by their indexed terms

* `Query` — a formula over the terms of fields.
* `Query.clauseCount` — how many terms a query looks up.
* `Query.Holds` — the meaning of a query for a document with given terms.
* `Query.normalize` — the same query without constants, nested composites of one connective and
  composites of a single operand.
* `Query.render` — the text of a query.
* `Query.ofFormula` — the query of a formula over the terms of one field.
-/

/-- A query. -/
inductive Query where
  /-- Every document, or none. -/
  | const (value : Bool)
  /-- The documents with the term in the field. -/
  | term (field term : String)
  /-- The documents with one of the terms in the field. -/
  | terms (field : String) (terms : List String)
  | node (kind : Connective) (operands : List Query)
  deriving Inhabited, Repr

namespace Query

mutual

/-- The number of terms. -/
def clauseCount : Query → Nat
  | .const _ => 0
  | .term _ _ => 1
  | .terms _ ts => ts.length
  | .node _ operands => clauseCountList operands

/-- The number of terms of some operands. -/
def clauseCountList : List Query → Nat
  | [] => 0
  | q :: qs => clauseCount q + clauseCountList qs

end

mutual

/-- The query holds of a document where `has field term` tells which terms it has. -/
def Holds (has : String → String → Prop) : Query → Prop
  | .const value => value = true
  | .term field t => has field t
  | .terms field ts => ∃ t ∈ ts, has field t
  | .node .and operands => HoldsAll has operands
  | .node .or operands => HoldsSome has operands

/-- All operands hold. -/
def HoldsAll (has : String → String → Prop) : List Query → Prop
  | [] => True
  | q :: qs => Holds has q ∧ HoldsAll has qs

/-- Some operand holds. -/
def HoldsSome (has : String → String → Prop) : List Query → Prop
  | [] => False
  | q :: qs => Holds has q ∨ HoldsSome has qs

end

/-! ### Normal form -/

/-- The query for one of several terms. -/
def ofTerms (field : String) (terms : List String) : Query :=
  match (terms.mergeSort fun a b => decide (a ≤ b)).eraseReps with
  | [] => .const false
  | [single] => .term field single
  | several => .terms field several

/-- The operands of a query as a composite of `kind`: its own, or the query itself. -/
def parts (kind : Connective) : Query → List Query
  | .node k operands => if k = kind then operands else [.node k operands]
  | q => [q]

/-- Joins normal operands: units go, nested composites of the same connective give their operands,
and a constant that decides the composite takes its place. -/
def flatten (kind : Connective) : List Query → Bool ⊕ List Query
  | [] => .inr []
  | .const value :: rest =>
    if value = kind.unit then flatten kind rest else .inl value
  | q :: rest =>
    match flatten kind rest with
    | .inl value => .inl value
    | .inr kept => .inr (parts kind q ++ kept)

/-- The composite of normal operands. -/
def join (kind : Connective) (operands : List Query) : Query :=
  match flatten kind operands with
  | .inl value => .const value
  | .inr [] => .const kind.unit
  | .inr [single] => single
  | .inr several => .node kind several

mutual

/-- The normal form of a query. -/
def normalize : Query → Query
  | .terms field ts => ofTerms field ts
  | .node kind operands => join kind (normalizeList operands)
  | q => q

/-- The normal forms of some operands. -/
def normalizeList : List Query → List Query
  | [] => []
  | q :: qs => normalize q :: normalizeList qs

end

/-! ### Text -/

mutual

/-- The text of a query: `(body:"abc" AND body:["bcd", "cde"])`. -/
def render : Query → String
  | .const true => "*"
  | .const false => "-*"
  | .term field t => field ++ ":" ++ Text.quoted t
  | .terms field ts => field ++ ":[" ++ ", ".intercalate (ts.map Text.quoted) ++ "]"
  | .node kind operands =>
    let word := match kind with | .and => " AND " | .or => " OR "
    "(" ++ word.intercalate (renderList operands) ++ ")"

/-- The texts of some operands. -/
def renderList : List Query → List String
  | [] => []
  | q :: qs => render q :: renderList qs

end

/-! ### Queries of formulas -/

/-- The term of a query that looks up a single one. -/
def term? : Query → Option String
  | .term _ t => some t
  | _ => none

/-- What the parts of a formula become in a query on a field. A disjunction of several terms is a
single lookup. -/
def lookups (field : String) : Interpretation String Query where
  const := .const
  leaf := .term field
  node kind operands :=
    let ts := operands.filterMap term?
    if kind = .or ∧ 1 < operands.length ∧ ts.length = operands.length then .terms field ts
    else .node kind operands

/-- The query for a formula over the terms of a field. -/
def ofFormula (field : String) (f : Formula String) : Query := f.fold (lookups field)

end Query

end GramSieve
