import GramSieve.Config.Toml.Scalar

namespace GramSieve.Config.Toml

/-!
# Tables of TOML

* `Item`, `Entries` — what a key stands for while a document is read.
* `Entries.assign?` — assigns a value to a dotted key.
* `Entries.openTable?`, `Entries.openList?` — begins the table of a header, and the next table of a
  list of tables.
* `Entries.toTable` — the value of a table.

Nothing is defined twice. A table that only the headers of others have named may get a header of its
own, and only a table that dotted keys have made may get more dotted keys.
-/

/-- How a table came to be. -/
inductive Origin where
  /-- It has a header. -/
  | header
  /-- Its name stands in the header of another table. -/
  | headerPath
  /-- Its name stands in a dotted key. -/
  | dottedKey
  deriving DecidableEq, Repr, Inhabited

/-- What a key stands for. -/
inductive Item where
  | value (value : Value)
  | table (origin : Origin) (entries : List (String × Item))
  /-- A list of tables. Only the newest of them can change; the older ones are in reverse order. -/
  | tables (newest : List (String × Item)) (older : List (List (String × Item)))
  deriving Inhabited

/-- The entries of a table, in the order of their definition. -/
abbrev Entries := List (String × Item)

namespace Entries

/-- Sets what a key stands for. -/
def set (key : String) (item : Item) : Entries → Entries
  | [] => [(key, item)]
  | (other, old) :: rest =>
    if other = key then (key, item) :: rest else (other, old) :: set key item rest

/-- Assigns a value to a dotted key. -/
def assign? (value : Value) : List String → Entries → Option Entries
  | [], _ => none
  | [key], entries =>
    match entries.lookup key with
    | none => some (set key (.value value) entries)
    | some _ => none
  | key :: next :: keys, entries => do
    let item ← match entries.lookup key with
      | none => (.table .dottedKey ·) <$> assign? value (next :: keys) []
      | some (.table .dottedKey inner) =>
        (.table .dottedKey ·) <$> assign? value (next :: keys) inner
      | some (.table .headerPath inner) =>
        if keys.isEmpty then none
        else (.table .headerPath ·) <$> assign? value (next :: keys) inner
      | some (.tables newest older) =>
        if keys.isEmpty then none else (.tables · older) <$> assign? value (next :: keys) newest
      | some (.table .header _) | some (.value _) => none
    return set key item entries

/-- Changes the table that a path of header names leads to. Tables that are not there are made. -/
def update? (change : Entries → Option Entries) : List String → Entries → Option Entries
  | [], entries => change entries
  | name :: names, entries => do
    let item ← match entries.lookup name with
      | none => (.table .headerPath ·) <$> update? change names []
      | some (.table origin inner) => (.table origin ·) <$> update? change names inner
      | some (.tables newest older) => (.tables · older) <$> update? change names newest
      | some (.value _) => none
    return set name item entries

/-- Begins the table of a header. -/
def openTable? (path : List String) (entries : Entries) : Option Entries := do
  let key ← path.getLast?
  entries.update? (fun entries =>
    match entries.lookup key with
    | none => some (set key (.table .header []) entries)
    | some (.table .headerPath inner) => some (set key (.table .header inner) entries)
    | some _ => none) path.dropLast

/-- Begins the next table of a list of tables. -/
def openList? (path : List String) (entries : Entries) : Option Entries := do
  let key ← path.getLast?
  entries.update? (fun entries =>
    match entries.lookup key with
    | none => some (set key (.tables [] []) entries)
    | some (.tables newest older) => some (set key (.tables [] (newest :: older)) entries)
    | some _ => none) path.dropLast

mutual

/-- The value of an item. -/
def itemValue : Item → Value
  | .value value => value
  | .table _ entries => .table (entryValues entries)
  | .tables newest older => .list (.table (entryValues newest) :: tableValues older).reverse

/-- The keys of a table with their values. -/
def entryValues : List (String × Item) → List (String × Value)
  | [] => []
  | (key, item) :: rest => (key, itemValue item) :: entryValues rest

/-- The values of some tables. -/
def tableValues : List (List (String × Item)) → List Value
  | [] => []
  | entries :: rest => .table (entryValues entries) :: tableValues rest

end

/-- The value of a table. -/
def toTable (entries : Entries) : Value := .table (entryValues entries)

end Entries

end GramSieve.Config.Toml
