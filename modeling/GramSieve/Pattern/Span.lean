namespace GramSieve.Pattern

/-!
# Places in a pattern

* `Position` — a line and a column, both counted from one, columns in characters.
* `Span` — the text between two positions.
-/

/-- A place between two characters of a pattern. -/
structure Position where
  line : Nat := 1
  column : Nat := 1
  deriving DecidableEq, Repr, Inhabited

namespace Position

/-- The position behind the character `c` that stands at `p`. -/
def after (p : Position) (c : Char) : Position :=
  if c = '\n' then ⟨p.line + 1, 1⟩ else ⟨p.line, p.column + 1⟩

/-- Whether `p` is `q` or stands before it. -/
def le (p q : Position) : Bool := p.line < q.line || (p.line == q.line && p.column ≤ q.column)

end Position

/-- The text from `start` up to `stop`. -/
structure Span where
  start : Position
  stop : Position
  deriving DecidableEq, Repr, Inhabited

namespace Span

/-- The empty span at `p`. -/
def empty (p : Position) : Span := ⟨p, p⟩

/-- The order of spans: by start, then by end. -/
def le (s t : Span) : Bool := if s.start = t.start then s.stop.le t.stop else s.start.le t.start

/-- Whether the span starts and ends on one line. -/
def onOneLine (s : Span) : Bool := s.start.line == s.stop.line

end Span

end GramSieve.Pattern
