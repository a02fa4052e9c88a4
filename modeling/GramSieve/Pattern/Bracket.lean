import GramSieve.Pattern.Escape

namespace GramSieve.Pattern

/-!
# Bracketed classes

Classes nest, so the reader keeps the classes and operators that are still open on a stack.

* `ClassFrame` — an open bracket or an operator that waits for its right side.
* `readBracketed` — reads a class from its opening bracket to the closing one.
-/

/-- The members of a class read so far, last one first, and the text that they span. -/
structure Members where
  span : Span
  items : List ClassTerm := []
  deriving Repr, Inhabited

namespace Members

/-- Adds a member. -/
def push (m : Members) (item : ClassTerm) : Members :=
  let start := if m.items.isEmpty then item.span.start else m.span.start
  { span := ⟨start, item.span.stop⟩, items := item :: m.items }

/-- The members as one term. -/
def toTerm (m : Members) : ClassTerm :=
  match m.items with
  | [] => .empty m.span
  | [item] => item
  | items => .union m.span items.reverse

end Members

/-- Something that waits for the members being read. -/
inductive ClassFrame where
  | opened (outer : Members) (span : Span) (negated : Bool)
  | operator (op : ClassOp) (left : ClassTerm)
  deriving Repr, Inhabited

/-- Joins `right` with the operator that waits for it, if there is one. -/
def closeOperator (right : ClassTerm) : List ClassFrame → ClassTerm × List ClassFrame
  | .operator op left :: frames =>
    (.binary ⟨left.span.start, right.span.stop⟩ op left right, frames)
  | frames => (right, frames)

/-- The fault of a class without an end: the innermost open bracket is at fault. -/
def unclosedClass {α : Type} (c : Cursor) : List ClassFrame → Reading α
  | .opened _ span _ :: _ => refuse span .classUnclosed
  | .operator _ _ :: frames => unclosedClass c frames
  | [] => refuse c.here .classUnclosed

/-- The class that a name between `[:` and `:]` stands for. -/
def asciiKind? (name : String) : Option AsciiKind :=
  match name with
  | "alnum" => some .alnum
  | "alpha" => some .alpha
  | "ascii" => some .ascii
  | "blank" => some .blank
  | "cntrl" => some .cntrl
  | "digit" => some .digit
  | "graph" => some .graph
  | "lower" => some .lower
  | "print" => some .print
  | "punct" => some .punct
  | "space" => some .space
  | "upper" => some .upper
  | "word" => some .word
  | "xdigit" => some .xdigit
  | _ => none

/-- Reads a class such as `[:alpha:]` if there is one; the opening bracket is next. -/
def readAscii? (c : Cursor) : Option (ClassTerm × Cursor) := do
  let inner ← c.past? "[:"
  let (negated, name) := match inner.char? with
    | some '^' => (true, inner.bump)
    | _ => (false, inner)
  let (letters, stop) := name.takeWhile Cursor.bump (· != ':')
  let next ← stop.past? ":]"
  let kind ← asciiKind? (String.ofList letters)
  return (.ascii ⟨c.pos, next.pos⟩ kind negated, next)

/-- A literal of the character at the cursor. -/
def literalHere (ch : Char) (c : Cursor) : ClassTerm := .literal { span := c.spanChar, char := ch }

/-- Reads the hyphens that a class starts with, each a literal. There is a step for each character
that is left. -/
def readHyphens (start : Position) : List Char → Members → Cursor → Reading (Members × Cursor)
  | [], members, c => .ok (members, c)
  | _ :: steps, members, c =>
    if c.char? == some '-' then
      let next := c.advance
      if next.atEnd then refuse (.empty start) .classUnclosed
      else readHyphens start steps (members.push (literalHere '-' c)) next
    else .ok (members, c)

/-- Reads the start of a class, with a `]` that is its first member; the opening bracket is next. -/
def readOpening (outer : Members) (c : Cursor) : Reading (ClassFrame × Members × Cursor) := do
  let start := c.pos
  let unclosed {α : Type} (c : Cursor) : Reading α := refuse ⟨start, c.pos⟩ .classUnclosed
  let c := c.advance
  if c.atEnd then unclosed c
  let negated := c.char? == some '^'
  let c := if negated then c.advance else c
  if c.atEnd then unclosed c
  let (members, c) ← readHyphens start c.rest { span := c.here } c
  if members.items.isEmpty && c.char? == some ']' then
    let next := c.advance
    if next.atEnd then unclosed next
    return (.opened outer ⟨start, next.pos⟩ negated, members.push (literalHere ']' c), next)
  else
    return (.opened outer ⟨start, c.pos⟩ negated, members, c)

/-- Reads one end of a range, or a member on its own; the character `ch` is next. -/
def readClassPrimitive (ch : Char) (c : Cursor) : Reading (Primitive × Cursor) :=
  if ch = '\\' then readEscape c else .ok (.literal { span := c.spanChar, char := ch }, c.bump)

/-- Reads a member or a range; the character `ch` is next. -/
def readClassItem (frames : List ClassFrame) (ch : Char) (c : Cursor) :
    Reading (ClassTerm × Cursor) := do
  let (first, c) ← readClassPrimitive ch c
  let c := c.skipBlank
  if c.atEnd then unclosedClass c frames
  else if c.char? != some '-' || c.peekToken? == some ']' || c.peekToken? == some '-' then
    return (← first.toClassTerm, c)
  else
    let c := c.advance
    match c.char? with
    | none => unclosedClass c frames
    | some ch =>
      let (last, c) ← readClassPrimitive ch c
      let span : Span := ⟨first.span.start, last.span.stop⟩
      let lo ← first.toRangeEnd
      let hi ← last.toRangeEnd
      if hi.char < lo.char then refuse span .classRangeInvalid
      else return (.range span lo hi, c)

/-- The operator that comes next, and the cursor behind it. -/
def classOperator? (c : Cursor) : Option (ClassOp × Cursor) :=
  ((c.past? "&&").map (ClassOp.intersection, ·)).or <|
    ((c.past? "--").map (ClassOp.difference, ·)).or <|
      (c.past? "~~").map (ClassOp.symmetricDifference, ·)

/-- What one step of reading a class leads to. -/
inductive ClassStep where
  | more (frames : List ClassFrame) (members : Members) (c : Cursor)
  | done (span : Span) (negated : Bool) (inner : ClassTerm) (c : Cursor)

/-- Closes the innermost class; its closing bracket is next. -/
def closeClass (frames : List ClassFrame) (members : Members) (c : Cursor) : Reading ClassStep :=
  let next := c.bump
  match closeOperator members.toTerm frames with
  | (inner, .opened outer span negated :: frames) =>
    let span : Span := ⟨span.start, next.pos⟩
    if frames.isEmpty then .ok (.done span negated inner next)
    else .ok (.more frames (outer.push (.bracketed span negated inner)) next)
  | (_, _) => refuse c.here .classUnclosed

/-- Reads the next token of a class. -/
def readClassToken (frames : List ClassFrame) (members : Members) (c : Cursor) :
    Reading ClassStep :=
  let c := c.skipBlank
  match c.char? with
  | none => unclosedClass c frames
  | some '[' =>
    match (if frames.isEmpty then none else readAscii? c) with
    | some (term, next) => .ok (.more frames (members.push term) next)
    | none => do
      let (frame, inner, next) ← readOpening members c
      return .more (frame :: frames) inner next
  | some ']' => closeClass frames members c
  | some ch =>
    match classOperator? c with
    | some (op, next) =>
      let (left, frames) := closeOperator members.toTerm frames
      .ok (.more (.operator op left :: frames) { span := next.here } next)
    | none => do
      let (item, next) ← readClassItem frames ch c
      return .more frames (members.push item) next

/-- Reads tokens of a class until it is closed, and at most one for each of some characters. -/
def readClassTokens : List Char → List ClassFrame → Members → Cursor → Reading (Tree × Cursor)
  | [], frames, _, c => unclosedClass c frames
  | _ :: steps, frames, members, c => do
    match ← readClassToken frames members c with
    | .more frames members next => readClassTokens steps frames members next
    | .done span negated inner next => return (.bracketed span negated inner, next)

/-- Reads a class; its opening bracket is next. Every token takes at least one character, so the
characters that are left, and one more for the end, bound the tokens. -/
def readBracketed (c : Cursor) : Reading (Tree × Cursor) :=
  readClassTokens ('\n' :: c.rest) [] { span := c.here } c

end GramSieve.Pattern
