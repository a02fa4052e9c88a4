import GramSieve.Gram.Analyzer

namespace GramSieve

/-!
# Documents and schemas

* `Document` — named fields, each with some values.
* `GramField`, `Schema` — which fields are derived from others, and which are not stored.
-/

/-- A document: every field with its values, in the order in which they were added. -/
structure Document where
  fields : List (String × List String) := []
  deriving DecidableEq, Repr, Inhabited

namespace Document

/-- The values of a field. -/
def values (d : Document) (field : String) : List String := (d.fields.lookup field).getD []

/-- Adds some values to those of a field. -/
def addValues (d : Document) (field : String) (values : List String) : Document :=
  match d.fields.lookup field with
  | none => ⟨d.fields ++ [(field, values)]⟩
  | some _ =>
    ⟨d.fields.map fun (name, old) => (name, if name = field then old ++ values else old)⟩

/-- The document with only the fields that pass a test. -/
def restrict (d : Document) (keep : String → Bool) : Document :=
  ⟨d.fields.filter fun (name, _) => keep name⟩

end Document

/-- A field with the grams of another one. -/
structure GramField where
  name : String
  source : String
  analyzer : Gram.GramAnalyzer
  deriving DecidableEq, Repr, Inhabited

/-- Which fields are derived, and which are not stored. -/
structure Schema where
  gramFields : List GramField := []
  unstored : List String := []
  deriving DecidableEq, Repr, Inhabited

namespace Schema

/-- The gram field of a name. -/
def gramField? (s : Schema) (name : String) : Option GramField :=
  s.gramFields.find? fun f => f.name == name

/-- Whether the values of a field are kept. -/
def isStored (s : Schema) (field : String) : Bool := !s.unstored.contains field

end Schema

end GramSieve
