import GramSieve.Text.Quoted

namespace GramSieve.Text

/-!
# JSON

* `Json` — values of JSON, as far as reports need them.
* `Json.render` — the text of a value, with a line of its own for every item and entry.
-/

/-- A value of JSON. The entries of an object keep their order. -/
inductive Json where
  | bool (value : Bool)
  | number (value : Nat)
  | text (value : String)
  | list (items : List Json)
  | object (entries : List (String × Json))
  deriving Inhabited

namespace Json

/-- How a character is written in a string. Quotes, backslashes and control characters are
escaped. -/
def escape (c : Char) : List Char :=
  match c with
  | '"' => ['\\', '"']
  | '\\' => ['\\', '\\']
  | '\x08' => ['\\', 'b']
  | '\x0c' => ['\\', 'f']
  | '\n' => ['\\', 'n']
  | '\r' => ['\\', 'r']
  | '\t' => ['\\', 't']
  | _ =>
    if c < ' ' then
      let digits := hexDigits c.toNat
      ['\\', 'u'] ++ List.replicate (4 - digits.length) '0' ++ digits
    else [c]

/-- A string in quotes. -/
def quote (text : String) : String :=
  String.ofList ('"' :: text.toList.flatMap escape ++ ['"'])

/-- The blanks before a line inside `depth` lists and objects. -/
def margin (depth : Nat) : String := String.ofList (List.replicate (2 * depth) ' ')

/-- Lines between two brackets, with commas behind all but the last. -/
def bracketed (depth : Nat) (opening closing : String) (lines : List String) : String :=
  if lines.isEmpty then opening ++ closing
  else
    opening ++ "\n" ++ ",\n".intercalate (lines.map (margin (depth + 1) ++ ·)) ++ "\n" ++
      margin depth ++ closing

mutual

/-- The text of a value inside `depth` lists and objects. -/
def renderAt (depth : Nat) : Json → String
  | .bool value => if value then "true" else "false"
  | .number value => toString value
  | .text value => quote value
  | .list items => bracketed depth "[" "]" (renderItems (depth + 1) items)
  | .object entries => bracketed depth "\x7b" "\x7d" (renderEntries (depth + 1) entries)

/-- The texts of some items. -/
def renderItems (depth : Nat) : List Json → List String
  | [] => []
  | item :: rest => renderAt depth item :: renderItems depth rest

/-- The texts of some entries. -/
def renderEntries (depth : Nat) : List (String × Json) → List String
  | [] => []
  | (key, value) :: rest => (quote key ++ ": " ++ renderAt depth value) :: renderEntries depth rest

end

/-- The text of a value. -/
def render (value : Json) : String := renderAt 0 value

end Json

end GramSieve.Text
