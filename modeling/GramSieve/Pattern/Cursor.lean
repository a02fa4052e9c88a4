import GramSieve.Pattern.Fault
import GramSieve.Unicode.CharClass

namespace GramSieve.Pattern

/-!
# Reading a pattern character by character

* `Cursor` — what is left of a pattern and where it starts.
* `Cursor.bump`, `Cursor.skipBlank`, `Cursor.advance` — moves; in verbose mode blanks and comments
  between tokens are skipped.
* `Cursor.takeWhile` — the characters up to the first one that a test refuses.
-/

/-- A place in a pattern, with the characters from there on. In verbose mode blanks separate tokens
and `#` starts a comment. -/
structure Cursor where
  rest : List Char
  pos : Position := {}
  verbose : Bool := false
  deriving Repr, Inhabited

/-- What reading a part of a pattern yields: a value, or the fault that stopped it. -/
abbrev Reading := Except Fault

namespace Cursor

/-- Whether the pattern is used up. -/
def atEnd (c : Cursor) : Bool := c.rest.isEmpty

/-- The next character. -/
def char? (c : Cursor) : Option Char := c.rest.head?

/-- The character after the next one. -/
def peek? (c : Cursor) : Option Char := c.rest.tail.head?

/-- Moves past the next character. -/
def bump (c : Cursor) : Cursor :=
  match c.rest with
  | [] => c
  | ch :: rest => { c with rest := rest, pos := c.pos.after ch }

/-- Moves past blanks, and past comments up to their line's end. -/
def skipFrom (inComment : Bool) (pos : Position) : List Char → Position × List Char
  | [] => (pos, [])
  | ch :: rest =>
    if inComment then skipFrom (ch != '\n') (pos.after ch) rest
    else if Unicode.isWhiteSpace ch then skipFrom false (pos.after ch) rest
    else if ch = '#' then skipFrom true (pos.after ch) rest
    else (pos, ch :: rest)

/-- In verbose mode, moves to the next token. -/
def skipBlank (c : Cursor) : Cursor :=
  if c.verbose then
    let (pos, rest) := skipFrom false c.pos c.rest
    { c with rest := rest, pos := pos }
  else c

/-- Moves past the next character and then to the next token. -/
def advance (c : Cursor) : Cursor := c.bump.skipBlank

/-- The empty span at the cursor. -/
def here (c : Cursor) : Span := .empty c.pos

/-- The span of the next character. -/
def spanChar (c : Cursor) : Span := ⟨c.pos, c.bump.pos⟩

/-- The cursor behind `text`, if that is what comes next. -/
def past? (c : Cursor) (text : String) : Option Cursor :=
  if text.toList.isPrefixOf c.rest then some (text.toList.foldl (fun c _ => c.bump) c) else none

/-- The characters for which `test` holds, up to the first one for which it does not, moving on by
`move` after each. The characters that are left bound the moves. -/
def takeWhile (move : Cursor → Cursor) (test : Char → Bool) (c : Cursor) : List Char × Cursor :=
  let rec go : List Char → Cursor → List Char × Cursor
    | [], c => ([], c)
    | _ :: steps, c =>
      match c.rest with
      | [] => ([], c)
      | ch :: _ =>
        if test ch then
          let (chars, stop) := go steps (move c)
          (ch :: chars, stop)
        else ([], c)
  go c.rest c

/-- The next character that is no blank, looked for behind the next character. In verbose mode a
`#` is passed over once. If there are only blanks, the first of them. -/
def peekToken? (c : Cursor) : Option Char :=
  if c.verbose then
    let rec find (inComment : Bool) : List Char → Option Char
      | [] => none
      | ch :: rest =>
        if Unicode.isWhiteSpace ch then find inComment rest
        else if !inComment && ch == '#' then find true rest
        else some ch
    (find false c.rest.tail).or c.peek?
  else c.peek?

end Cursor

/-- The fault `kind` about `span`. -/
def refuse {α : Type} (span : Span) (kind : FaultKind) : Reading α := .error { kind, span }

end GramSieve.Pattern
