import GramSieve.Config.Toml.Table

namespace GramSieve.Config.Toml

/-!
# Documents of TOML

* `readKey`, `readValue`, `readPair` — dotted keys, values, and values with their keys.
* `Draft` — a document as far as it has been read.
* `document?` — the table that a document writes.
-/

/-- How many names a key may have, and how deep lists and tables may lie in each other. -/
def maxNesting : Nat := 79

/-- Whether a character may stand in a name without quotes. -/
def isNameChar (c : Char) : Bool := c.isAlphanum || c == '-' || c == '_'

/-- Reads a name. In quotes it may be any text of one line. -/
def readName : Reader String
  | '"' :: text => readLine '"' text
  | '\'' :: text => readLine '\'' text
  | text =>
    match text.takeWhile isNameChar with
    | [] => none
    | name => some (String.ofList name, text.dropWhile isNameChar)

/-- Reads a key of at most so many names, with dots between them. -/
def readNames : Nat → Reader (List String)
  | 0, _ => none
  | count + 1, text => do
    let (name, text) ← readName (skipBlank text)
    match skipBlank text with
    | '.' :: text =>
      let (names, text) ← readNames count text
      return (name :: names, text)
    | text => return ([name], text)

/-- Reads a key and the blanks around it. -/
def readKey : Reader (List String) := readNames maxNesting

/-- The text behind blank lines and comments. A comment goes up to the end of its line, which must
have one; `inComment` tells whether one is being read. -/
def skipLines (inComment : Bool) : List Char → Option (List Char)
  | [] => if inComment then none else some []
  | '\n' :: rest => skipLines false rest
  | '\r' :: '\n' :: rest => skipLines false rest
  | c :: rest =>
    if inComment then if isPlain c then skipLines true rest else none
    else if isBlank c then skipLines false rest
    else if c = '#' then skipLines true rest
    else some (c :: rest)

/-- Reads the rest of a list, behind the items `before` in reverse. There may be line ends and
comments between the items, and a comma behind the last one. The first argument bounds the count of
items. -/
def readItems (item : Reader Value) : List Char → List Value → Reader (List Value)
  | [], _, _ => none
  | _ :: bound, before, text => do
    match ← skipLines false text with
    | ']' :: text => return (before.reverse, text)
    | text =>
      let (value, text) ← item text
      match ← skipLines false text with
      | ',' :: text => readItems item bound (value :: before) text
      | ']' :: text => return ((value :: before).reverse, text)
      | _ => none

/-- Reads a key and its value. -/
def readPair (item : Reader Value) : Reader (List String × Value) := fun text => do
  match ← readKey text with
  | (key, '=' :: text) =>
    let (value, text) ← item (skipBlank text)
    return ((key, value), text)
  | _ => none

/-- Reads the rest of a table in braces, behind some entries. The first argument bounds the count of
entries. -/
def readPairs (item : Reader Value) : List Char → Entries → Reader Entries
  | [], _, _ => none
  | _ :: bound, entries, text => do
    let ((key, value), text) ← readPair item text
    let entries ← entries.assign? value key
    match skipBlank text with
    | ',' :: text => readPairs item bound entries text
    | '}' :: text => return (entries, text)
    | _ => none

/-- Reads a value, in which lists and tables lie at most so deep in each other. -/
def readValue : Nat → Reader Value
  | _, '"' :: text => (readString ('"' :: text)).map fun (s, text) => (.text s, text)
  | _, '\'' :: text => (readString ('\'' :: text)).map fun (s, text) => (.text s, text)
  | 0, '[' :: _ | 0, '{' :: _ => none
  | depth + 1, '[' :: text =>
    (readItems (readValue depth) text [] text).map fun (items, text) => (.list items, text)
  | depth + 1, '{' :: text =>
    match skipBlank text with
    | '}' :: text => some (.table [], text)
    | text =>
      (readPairs (readValue depth) text [] text).map fun (entries, text) => (entries.toTable, text)
  | _, text => readBare text

/-- A document as far as it has been read. -/
structure Draft where
  root : Entries := []
  /-- The header of the table that keys belong to. -/
  header : List String := []
  deriving Inhabited

/-- Reads the next line: a header, a key with its value, or nothing. -/
def readDraft (d : Draft) : Reader Draft := fun text => do
  match skipBlank text with
  | '[' :: '[' :: text =>
    match ← readKey text with
    | (header, ']' :: ']' :: text) => return ({ root := ← d.root.openList? header, header }, text)
    | _ => none
  | '[' :: text =>
    match ← readKey text with
    | (header, ']' :: text) => return ({ root := ← d.root.openTable? header, header }, text)
    | _ => none
  | [] => return (d, [])
  | c :: text =>
    if c = '#' ∨ c = '\n' ∨ c = '\r' then return (d, c :: text)
    else
      let ((key, value), text) ← readPair (readValue maxNesting) (c :: text)
      return ({ d with root := ← d.root.update? (Entries.assign? value key) d.header }, text)

/-- The text behind a line, which may end with a comment. -/
def pastLine? (text : List Char) : Option (List Char) :=
  let text := match skipBlank text with
    | '#' :: text => text.dropWhile isPlain
    | text => text
  if text.isEmpty then some [] else pastNewline? text

/-- Reads the lines of a document. The first argument bounds their count. -/
def readDrafts : List Char → Draft → List Char → Option Draft
  | _, d, [] => some d
  | [], _, _ => none
  | _ :: bound, d, text => do
    let (d, text) ← readDraft d text
    readDrafts bound d (← pastLine? text)

/-- The table that a document writes. -/
def document? (text : String) : Option Value :=
  let text := match text.toList with
    | '\uFEFF' :: text => text
    | text => text
  (readDrafts text {} text).map fun d => d.root.toTable

end GramSieve.Config.Toml
