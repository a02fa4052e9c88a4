import GramSieve.Pattern.Span

namespace GramSieve.Pattern

/-!
# The tree of a pattern

What a regular expression says, before its flags and classes are resolved. Every node knows the text
that it was read from.

* `ClassTerm` — what stands between square brackets.
* `Pattern.Tree` — a whole pattern.
-/

/-- A literal character. -/
structure Literal where
  span : Span
  char : Char
  /-- It was written as two hexadecimal digits (`\xE9`), which may stand for a byte. -/
  isByte : Bool := false
  deriving DecidableEq, Repr, Inhabited

/-- The letters of the escapes `\d`, `\s` and `\w`. -/
inductive PerlKind where
  | digit
  | space
  | word
  deriving DecidableEq, Repr, Inhabited

/-- A class such as `\d`, or its negation `\D`. -/
structure PerlClass where
  span : Span
  kind : PerlKind
  negated : Bool
  deriving DecidableEq, Repr, Inhabited

/-- The names between `[:` and `:]`. -/
inductive AsciiKind where
  | alnum
  | alpha
  | ascii
  | blank
  | cntrl
  | digit
  | graph
  | lower
  | print
  | punct
  | space
  | upper
  | word
  | xdigit
  deriving DecidableEq, Repr, Inhabited

/-- What `\p` asks for: a name on its own, or a property and its value. -/
inductive PropertyQuery where
  | letter (c : Char)
  | named (name : String)
  | valued (name value : String)
  deriving DecidableEq, Repr, Inhabited

/-- A class such as `\pL` or `\p\x7bGreek\x7d`. -/
structure PropertyClass where
  span : Span
  negated : Bool
  query : PropertyQuery
  deriving DecidableEq, Repr, Inhabited

/-- The operators between two parts of a bracketed class. -/
inductive ClassOp where
  | intersection
  | difference
  | symmetricDifference
  deriving DecidableEq, Repr, Inhabited

/-- What stands between square brackets. -/
inductive ClassTerm where
  | empty (span : Span)
  | literal (l : Literal)
  | range (span : Span) (first last : Literal)
  | ascii (span : Span) (kind : AsciiKind) (negated : Bool)
  | property (p : PropertyClass)
  | perl (p : PerlClass)
  | bracketed (span : Span) (negated : Bool) (inner : ClassTerm)
  | union (span : Span) (items : List ClassTerm)
  | binary (span : Span) (op : ClassOp) (left right : ClassTerm)
  deriving Repr, Inhabited

namespace ClassTerm

/-- The text of the term. -/
def span : ClassTerm → Span
  | .empty s => s
  | .literal l => l.span
  | .range s _ _ => s
  | .ascii s _ _ => s
  | .property p => p.span
  | .perl p => p.span
  | .bracketed s _ _ => s
  | .union s _ => s
  | .binary s _ _ _ => s

end ClassTerm

/-- Assertions about the place of a match. -/
inductive AssertionKind where
  | startLine
  | endLine
  | startText
  | endText
  | wordBoundary
  | notWordBoundary
  | wordStart
  | wordEnd
  | wordStartHalf
  | wordEndHalf
  deriving DecidableEq, Repr, Inhabited

/-- The flags between `(?` and `)`. -/
inductive Flag where
  | caseInsensitive
  | multiLine
  | dotMatchesNewLine
  | swapGreed
  | unicode
  | crlf
  | ignoreWhitespace
  deriving DecidableEq, Repr, Inhabited

/-- One character of a list of flags: a flag, or the `-` after which flags are cleared. -/
inductive FlagKind where
  | negation
  | flag (f : Flag)
  deriving DecidableEq, Repr, Inhabited

/-- One character of a list of flags with its place. -/
structure FlagItem where
  span : Span
  kind : FlagKind
  deriving DecidableEq, Repr, Inhabited

/-- Whether a list of flags sets `f` (`some true`), clears it or does not mention it. -/
def flagState (items : List FlagItem) (f : Flag) : Option Bool :=
  let rec go (negated : Bool) : List FlagItem → Option Bool
    | [] => none
    | item :: rest =>
      match item.kind with
      | .negation => go true rest
      | .flag g => if g = f then some (!negated) else go negated rest
  go false items

/-- What a group is for. -/
inductive GroupKind where
  | capture (index : Nat)
  | named (index : Nat) (name : String)
  | flags (items : List FlagItem)
  deriving DecidableEq, Repr, Inhabited

/-- How often a repetition repeats: from `min` to `max` times, or without an upper bound. -/
structure Bounds where
  min : Nat
  max : Option Nat
  deriving DecidableEq, Repr, Inhabited

/-- A pattern. -/
inductive Tree where
  | empty (span : Span)
  | flags (span : Span) (items : List FlagItem)
  | literal (l : Literal)
  | dot (span : Span)
  | assertion (span : Span) (kind : AssertionKind)
  | property (p : PropertyClass)
  | perl (p : PerlClass)
  | bracketed (span : Span) (negated : Bool) (inner : ClassTerm)
  | repetition (span : Span) (bounds : Bounds) (greedy : Bool) (sub : Tree)
  | group (span : Span) (kind : GroupKind) (sub : Tree)
  | alternation (span : Span) (branches : List Tree)
  | concat (span : Span) (parts : List Tree)
  deriving Repr, Inhabited

namespace Tree

/-- The text of the pattern. -/
def span : Tree → Span
  | .empty s => s
  | .flags s _ => s
  | .literal l => l.span
  | .dot s => s
  | .assertion s _ => s
  | .property p => p.span
  | .perl p => p.span
  | .bracketed s _ _ => s
  | .repetition s _ _ _ => s
  | .group s _ _ => s
  | .alternation s _ => s
  | .concat s _ => s

/-- Patterns in sequence: no node for one pattern on its own, and the empty pattern for none. -/
def sequence (span : Span) : List Tree → Tree
  | [] => .empty span
  | [t] => t
  | ts => .concat span ts

end Tree

end GramSieve.Pattern
