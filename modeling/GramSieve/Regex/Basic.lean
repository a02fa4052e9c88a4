import GramSieve.CodeSet

namespace GramSieve

/-!
# Regular expressions

A regular expression whose flags and classes are resolved to sets of code points.

* `Look` — assertions about the place of a match, in their fixed order.
* `Regex` — regular expressions.
* `Regex.beq`, `Regex.size`, `Regex.isZeroWidth` — equality, size, and whether only the empty text
  can match.
-/

/-- Assertions about the place of a match. -/
inductive Look where
  | start
  | stop
  | startLine
  | stopLine
  | startLineCrlf
  | stopLineCrlf
  | wordAscii
  | wordAsciiNegate
  | wordUnicode
  | wordUnicodeNegate
  | wordStartAscii
  | wordStopAscii
  | wordStartUnicode
  | wordStopUnicode
  | wordStartHalfAscii
  | wordStopHalfAscii
  | wordStartHalfUnicode
  | wordStopHalfUnicode
  deriving DecidableEq, Repr, Inhabited

namespace Look

/-- All assertions in their order. -/
def all : List Look := [.start, .stop, .startLine, .stopLine, .startLineCrlf, .stopLineCrlf,
  .wordAscii, .wordAsciiNegate, .wordUnicode, .wordUnicodeNegate, .wordStartAscii, .wordStopAscii,
  .wordStartUnicode, .wordStopUnicode, .wordStartHalfAscii, .wordStopHalfAscii,
  .wordStartHalfUnicode, .wordStopHalfUnicode]

/-- The name of an assertion in messages. -/
def name : Look → String
  | .start => "Start"
  | .stop => "End"
  | .startLine => "StartLF"
  | .stopLine => "EndLF"
  | .startLineCrlf => "StartCRLF"
  | .stopLineCrlf => "EndCRLF"
  | .wordAscii => "WordAscii"
  | .wordAsciiNegate => "WordAsciiNegate"
  | .wordUnicode => "WordUnicode"
  | .wordUnicodeNegate => "WordUnicodeNegate"
  | .wordStartAscii => "WordStartAscii"
  | .wordStopAscii => "WordEndAscii"
  | .wordStartUnicode => "WordStartUnicode"
  | .wordStopUnicode => "WordEndUnicode"
  | .wordStartHalfAscii => "WordStartHalfAscii"
  | .wordStopHalfAscii => "WordEndHalfAscii"
  | .wordStartHalfUnicode => "WordStartHalfUnicode"
  | .wordStopHalfUnicode => "WordEndHalfUnicode"

end Look

/-- A regular expression. The functions of `GramSieve.Regex.Build` keep it in a normal form: no empty
literal, no empty class but `Regex.never`, no nested sequences, no choice of one branch, … -/
inductive Regex where
  /-- Matches the empty text. -/
  | empty
  /-- Matches the text with these bytes. -/
  | literal (bytes : List UInt8)
  /-- Matches one code point, or one byte, of a set. -/
  | oneOf (alphabet : Alphabet) (set : CodeSet)
  /-- Matches the empty text at certain places. -/
  | look (l : Look)
  /-- Matches from `min` to `max` matches of `sub` in a row. -/
  | repetition (min : Nat) (max : Option Nat) (greedy : Bool) (sub : Regex)
  /-- Matches what `sub` matches. -/
  | capture (index : Nat) (name : Option String) (sub : Regex)
  /-- Matches a match of each part in turn. -/
  | concat (parts : List Regex)
  /-- Matches what one of the branches matches. -/
  | alternation (branches : List Regex)
  deriving Repr, Inhabited

namespace Regex

/-- The expression that matches nothing. -/
def never : Regex := .oneOf .bytes []

mutual

/-- Whether two expressions are the same. -/
def beq : Regex → Regex → Bool
  | .empty, .empty => true
  | .literal a, .literal b => a == b
  | .oneOf a s, .oneOf b t => a == b && s == t
  | .look a, .look b => a == b
  | .repetition a b c r, .repetition a' b' c' r' => a == a' && b == b' && c == c' && beq r r'
  | .capture i n r, .capture i' n' r' => i == i' && n == n' && beq r r'
  | .concat rs, .concat rs' => beqList rs rs'
  | .alternation rs, .alternation rs' => beqList rs rs'
  | _, _ => false

/-- Whether two lists of expressions are the same. -/
def beqList : List Regex → List Regex → Bool
  | [], [] => true
  | r :: rs, r' :: rs' => beq r r' && beqList rs rs'
  | _, _ => false

end

instance : BEq Regex := ⟨beq⟩

mutual

/-- How many nodes an expression has. -/
def size : Regex → Nat
  | .repetition _ _ _ r => r.size + 1
  | .capture _ _ r => r.size + 1
  | .concat rs => sizeList rs + 1
  | .alternation rs => sizeList rs + 1
  | _ => 1

/-- How many nodes a list of expressions has. -/
def sizeList : List Regex → Nat
  | [] => 0
  | r :: rs => r.size + sizeList rs

end

mutual

/-- Whether the longest match is the empty text. An expression that matches nothing has no longest
match. -/
def isZeroWidth : Regex → Bool
  | .empty => true
  | .look _ => true
  | .repetition _ max _ r => max.isSome && r.isZeroWidth
  | .capture _ _ r => r.isZeroWidth
  | .concat rs => allZeroWidth rs
  | .alternation rs => allZeroWidth rs
  | _ => false

/-- Whether all of a list of expressions are of zero width. -/
def allZeroWidth : List Regex → Bool
  | [] => true
  | r :: rs => r.isZeroWidth && allZeroWidth rs

end

mutual

/-- The assertions in an expression, in the order of the text. -/
def looks : Regex → List Look
  | .look l => [l]
  | .repetition _ _ _ r => r.looks
  | .capture _ _ r => r.looks
  | .concat rs => looksOfAll rs
  | .alternation rs => looksOfAll rs
  | _ => []

/-- The assertions in a list of expressions. -/
def looksOfAll : List Regex → List Look
  | [] => []
  | r :: rs => r.looks ++ looksOfAll rs

end

/-- The first assertion of an expression, in the order of `Look.all`. -/
def firstLook? (r : Regex) : Option Look :=
  let looks := r.looks
  Look.all.find? (looks.contains ·)

end Regex

end GramSieve
