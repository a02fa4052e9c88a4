import GramSieve.Search.Execution

namespace GramSieve

/-!
# Queries by regular expression

* `RegexQuery` — finds the documents with a match in a field.
* `RegexQuery.compile` — plans a query for the documents of a schema.
* `CompiledQuery.planFor`, `CompiledQuery.run` — the plan for a segment, and what it finds there.
-/

/-- Finds the documents with a match of `regex` in `field`. -/
structure RegexQuery where
  field : String
  regex : String
  /-- The field whose grams accelerate the search. -/
  gramField : Option String := none
  settings : Settings := {}
  deriving DecidableEq, Repr, Inhabited

namespace RegexQuery

/-- A query without a gram field, with the usual settings. Nothing is found by an empty
expression. -/
def ofRegex (field regex : String) : Except SearchError RegexQuery :=
  if regex.isEmpty then .error .emptyRegex else .ok { field, regex }

/-- The planner of a query for a field that accelerates it. -/
def planner (q : RegexQuery) (field : Option AnalyzedField := none) : Planner :=
  { regex := q.regex, settings := q.settings, field }

/-- The field of a schema that accelerates a query. Its grams have the length that is set. -/
def analyzedField (q : RegexQuery) (schema : Schema) (name : String) :
    Except SearchError AnalyzedField :=
  match schema.gramField? name with
  | none => .error (.unknownGramField name)
  | some f =>
    if f.analyzer.gramSize = q.settings.gramSize then .ok ⟨f.name, f.analyzer.analyze⟩
    else
      .error (.invalidSetting "gram_size"
        (s!"{q.settings.gramSize} does not match the gram size {f.analyzer.gramSize} of " ++
          s!"n-gram field `{name}`"))

end RegexQuery

/-- A query with its plan. -/
structure CompiledQuery where
  query : RegexQuery
  plan : Plan
  deriving Repr, Inhabited

/-- Plans a query for the documents of a schema. -/
def RegexQuery.compile (q : RegexQuery) (schema : Schema) : Except SearchError CompiledQuery := do
  q.settings.validate
  let field ← q.gramField.mapM (q.analyzedField schema)
  return ⟨q, ← (q.planner field).plan⟩

namespace CompiledQuery

/-- The plan for a segment, without the terms that it does not have. -/
def planFor (c : CompiledQuery) (segment : Segment) : Except SearchError Plan :=
  match c.plan with
  | .accelerated q => c.query.planner.replan (segment.prune q)
  | plan => .ok plan

/-- The search of a query, for values that are loaded in a given way. -/
def search (c : CompiledQuery) (load : Loader) : Search :=
  { field := c.query.field, load, rechecker := .ofSettings c.query.regex c.query.settings }

/-- The start of a run, with all the time that the settings give. -/
def start (c : CompiledQuery) : Progress := { deadline := { budget := c.query.settings.timeoutMs } }

/-- The documents of a segment that match, in ascending order. -/
def run {m : Type → Type} [Monad m] (c : CompiledQuery) (search : Search) (clock : m Nat)
    (segment : Segment) (p : Progress) : m (Except SearchError (List Nat) × Progress) :=
  match c.planFor segment with
  | .error e => return (.error e, p)
  | .ok plan => search.run clock plan segment p

end CompiledQuery

end GramSieve
