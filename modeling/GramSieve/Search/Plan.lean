import GramSieve.Formula.Disjunction
import GramSieve.Gram.Requirement
import GramSieve.Query.Order
import GramSieve.Regex.Compile
import GramSieve.Search.Settings

namespace GramSieve

/-!
# Plans

* `Plan` — how a search finds the documents to look at.
* `Planner` — a regular expression, with the gram field to accelerate it.
* `Planner.required` — the grams that every match must have.
* `Planner.plan` — the plan of a search.
* `Planner.replan` — the plan after the query has been pruned for a part of the index.
-/

open Automaton Gram

/-- How a search finds the documents to look at. -/
inductive Plan where
  /-- Looks at every document. -/
  | unaccelerated
  /-- Looks at the documents that a query finds. -/
  | accelerated (query : Query)
  /-- Nothing can match. -/
  | noMatch
  deriving Repr, Inhabited

namespace Plan

/-- Whether a query narrows the search. -/
def isAccelerated : Plan → Bool
  | .accelerated _ => true
  | _ => false

/-- The text of a plan. -/
def render : Plan → String
  | .unaccelerated => "unaccelerated (full scan)"
  | .accelerated q => "accelerated: " ++ q.render
  | .noMatch => "no match"

/-- The number of terms that the plan looks up. -/
def clauseCount : Plan → Nat
  | .accelerated q => q.clauseCount
  | _ => 0

/-- The plan with its query in ascending order. -/
def sorted : Plan → Plan
  | .accelerated q => .accelerated q.sorted
  | plan => plan

/-- The plan that a query in normal form leads to. -/
def ofQuery : Query → Plan
  | .const true => .unaccelerated
  | .const false => .noMatch
  | q => .accelerated q

end Plan

/-- A field whose terms an analyzer makes. -/
structure AnalyzedField where
  name : String
  analyzer : Analyzer

/-- What a search is planned for. -/
structure Planner where
  regex : String
  settings : Settings
  field : Option AnalyzedField := none

namespace Planner

/-- The grams that every match of the expression must have. Literals need no automaton. -/
def required (p : Planner) (analyzer : Analyzer) (r : Regex) :
    Except SearchError (Formula String) :=
  let b := p.settings.bounds
  match r.literalText? with
  | some literal => .ok (literalRequirement b analyzer (String.ofList literal))
  | none =>
    if b.maxStatesTraced = 0 then .ok (.const true)
    else
      match Dfa.ofRegex r p.settings.maxDeterminizedStates with
      | .error _ => .error (.tooComplexToDeterminize p.regex p.settings.maxDeterminizedStates)
      | .ok dfa =>
        (requiredGrams b analyzer dfa).mapError fun e =>
          .tooComplexToTrace p.regex e.maxStatesTraced

/-- Looks at every document, unless the settings refuse to. -/
def giveUp (p : Planner) (reason : Downgrade) : Except SearchError Plan :=
  if p.settings.rejectUnaccelerated then
    .error (.unableToAccelerate p.regex ((p.field.map (·.name)).getD "<none>") p.settings.gramSize
      reason)
  else .ok .unaccelerated

/-- The plan for a simplified formula over the terms of a field. One with too many clauses is
weakened to a disjunction. -/
def planFormula (p : Planner) (field : String) (f : Formula String) : Except SearchError Plan :=
  let limit := p.settings.maxGramClauses
  let accelerated (f : Formula String) := Plan.ofQuery (Query.ofFormula field f).normalize
  match f with
  | .const true => p.giveUp .noRequiredGrams
  | .const false => .ok .noMatch
  | _ =>
    if f.clauseCount ≤ limit then .ok (accelerated f)
    else
      match f.disjunction limit with
      | .const true => p.giveUp (.overClauseBudget f.clauseCount limit)
      | weaker =>
        if limit < weaker.clauseCount then p.giveUp (.overClauseBudget f.clauseCount limit)
        else .ok (accelerated weaker)

/-- The plan of a search. The expression is read even if there is no field. -/
def plan (p : Planner) : Except SearchError Plan := do
  if p.regex.isEmpty then throw .emptyRegex
  p.settings.validate
  let r ← Regex.compile p.regex p.settings.fold
  match p.field with
  | none => p.giveUp .noGramField
  | some field => p.planFormula field.name (← p.required field.analyzer r).simplify

/-- The plan after the query has been pruned for a part of the index. -/
def replan (p : Planner) : Query → Except SearchError Plan
  | .const true => p.giveUp .noRequiredGrams
  | .const false => .ok .noMatch
  | q => .ok (.accelerated q)

end Planner

end GramSieve
