namespace GramSieve.Config

/-!
# Values of a configuration

* `Value` — what a configuration file assigns to a key.
* `Value.nat?`, `Value.bool?`, `Value.text?`, `Value.texts?` — the values of settings.
* `Value.isRecord`, `Value.read` — records of settings, as tables or as lists in the order of the
  fields. What is missing has its default, and what no field has is ignored.
-/

/-- A value. -/
inductive Value where
  | bool (value : Bool)
  | integer (value : Int)
  | text (value : String)
  | list (items : List Value)
  | table (entries : List (String × Value))
  /-- A date or a time. As a record it has none of the fields. -/
  | date
  /-- A number that is no integer. No setting takes one. -/
  | real
  /-- The absence of a value. No setting takes it. -/
  | null
  deriving Inhabited, Repr

namespace Value

/-- The truth value of a setting. -/
def bool? : Value → Option Bool
  | .bool b => some b
  | _ => none

/-- The number of a setting, which is a word of 64 bits. -/
def nat? : Value → Option Nat
  | .integer (.ofNat n) => if n < UInt64.size then some n else none
  | _ => none

/-- The text of a setting. -/
def text? : Value → Option String
  | .text s => some s
  | _ => none

/-- The texts of a setting. -/
def texts? : Value → Option (List String)
  | .list items => items.mapM text?
  | _ => none

/-- Whether a value can be a record. -/
def isRecord : Value → Bool
  | .table _ | .list _ | .date => true
  | _ => false

/-- Whether a value, as a record of `size` fields, has no items left over. -/
def fits (size : Nat) : Value → Bool
  | .list items => items.length ≤ size
  | _ => true

/-- The field of a record with the given place and key, if there is one. -/
def field? (v : Value) (place : Nat) (key : String) : Option Value :=
  match v with
  | .table entries => entries.lookup key
  | .list items => items[place]?
  | _ => none

/-- Reads a field of a record. It fails if the field is there but is no value of its type. -/
def read {α : Type} (v : Value) (place : Nat) (key : String) (as : Value → Option α)
    (default : α) : Option α :=
  match v.field? place key with
  | some field => as field
  | none => some default

end Value

end GramSieve.Config
