import GramSieve.Pattern.Bracket

namespace GramSieve.Pattern

/-!
# Reading patterns

The reader keeps the groups and alternations that are still open on a stack, so the depth of a
pattern is bounded only by `nestLimit`, which is checked when the whole pattern is read.

* `Reader` — what has been read so far.
* `Tree.checkDepth` — refuses a pattern that nests too deeply.
* `parse` — reads a pattern.
-/

/-- The patterns read in sequence so far, last one first. -/
structure Sequence where
  start : Position
  parts : List Tree := []
  deriving Repr, Inhabited

namespace Sequence

/-- Adds a pattern at the end. -/
def push (s : Sequence) (t : Tree) : Sequence := { s with parts := t :: s.parts }

/-- The sequence as one pattern that ends at `stop`. -/
def toTree (s : Sequence) (stop : Position) : Tree :=
  Tree.sequence ⟨s.start, stop⟩ s.parts.reverse

end Sequence

/-- Something that waits for the sequence being read. -/
inductive Frame where
  | group (outer : Sequence) (span : Span) (kind : GroupKind) (verbose : Bool)
  | alternation (start : Position) (branches : List Tree)
  deriving Repr, Inhabited

/-- What has been read of a pattern. -/
structure Reader where
  cursor : Cursor
  sequence : Sequence
  frames : List Frame := []
  captures : Nat := 0
  names : List (String × Span) := []
  deriving Repr, Inhabited

/-! ### Flags -/

/-- The flag that a letter stands for. -/
def flag? (letter : Char) : Option Flag :=
  match letter with
  | 'i' => some .caseInsensitive
  | 'm' => some .multiLine
  | 's' => some .dotMatchesNewLine
  | 'U' => some .swapGreed
  | 'u' => some .unicode
  | 'R' => some .crlf
  | 'x' => some .ignoreWhitespace
  | _ => none

/-- The item that the character `ch` adds to a list of flags. -/
def readFlag (items : List FlagItem) (ch : Char) (c : Cursor) : Reading FlagItem := do
  let kind ← if ch = '-' then pure FlagKind.negation else
    match flag? ch with
    | some f => pure (.flag f)
    | none => refuse c.spanChar .flagUnrecognized
  match items.find? (·.kind == kind) with
  | some item =>
    let clash := if kind = .negation then FaultKind.flagRepeatedNegation else .flagDuplicate
    .error { kind := clash, span := c.spanChar, earlier := some item.span }
  | none => return { span := c.spanChar, kind }

/-- Reads flags up to `:` or `)`, which the cursor is left at, in a step for each of some
characters. -/
def readFlags : List Char → List FlagItem → Cursor → Reading (List FlagItem × Cursor)
  | [], _, c => refuse c.here .flagUnexpectedEnd
  | _ :: steps, items, c =>
    match c.char? with
    | none => refuse c.here .flagUnexpectedEnd
    | some ch =>
      if ch = ':' || ch = ')' then
        match items.getLast? with
        | some { span, kind := .negation } => refuse span .flagDanglingNegation
        | _ => .ok (items, c)
      else do
        let item ← readFlag items ch c
        readFlags steps (items ++ [item]) c.bump

/-! ### Groups -/

/-- Whether `c` may stand in the name of a group, as its first character or later. -/
def isNameChar (first : Bool) (c : Char) : Bool :=
  if first then c == '_' || Unicode.isAlphabetic c
  else c == '_' || c == '.' || c == '[' || c == ']' || Unicode.isAlphanumeric c

/-- Reads the name of a group up to its `>`. -/
def readName (c : Cursor) : Reading (String × Span × Cursor) :=
  let (first, second) := match c.char? with
    | some ch => if isNameChar true ch then ([ch], c.bump) else ([], c)
    | none => ([], c)
  let (later, stop) := if first.isEmpty then ([], second)
    else second.takeWhile Cursor.bump (isNameChar false)
  match stop.char? with
  | none => refuse stop.here .groupNameUnexpectedEnd
  | some '>' =>
    if first.isEmpty then refuse c.here .groupNameEmpty
    else .ok (String.ofList (first ++ later), ⟨c.pos, stop.pos⟩, stop.bump)
  | some _ => refuse stop.spanChar .groupNameInvalid

/-- The cursor behind the start of a look-around assertion, if there is one. -/
def pastLookAround? (c : Cursor) : Option Cursor :=
  ["?=", "?!", "?<=", "?<!"].findSome? c.past?

/-- Starts a group of the given kind. -/
def Reader.open (r : Reader) (span : Span) (kind : GroupKind) (c : Cursor) : Reader :=
  let verbose := match kind with
    | .flags items => (flagState items .ignoreWhitespace).getD c.verbose
    | _ => c.verbose
  { r with
    cursor := { c with verbose }
    sequence := { start := c.pos }
    frames := .group r.sequence span kind r.cursor.verbose :: r.frames }

/-- Starts a group with a name, which is next. -/
def Reader.openNamed (r : Reader) (span : Span) (c : Cursor) : Reading Reader := do
  let index := r.captures + 1
  let (name, nameSpan, next) ← readName c
  match r.names.lookup name with
  | some earlier => .error { kind := .groupNameDuplicate, span := nameSpan, earlier := some earlier }
  | none =>
    let r := { r with captures := index, names := (name, nameSpan) :: r.names }
    return r.open span (.named index name) next

/-- Starts a group with flags, or sets flags; the flags are next, and `mark` is the place of the
question mark before them. -/
def Reader.openFlags (r : Reader) (span : Span) (mark : Position) (c : Cursor) : Reading Reader := do
  if c.atEnd then refuse span .groupUnclosed
  let (items, stop) ← readFlags c.rest [] c
  let next := stop.bump
  if stop.char? == some ':' then return r.open span (.flags items) next
  else if items.isEmpty then refuse (.empty mark) .repetitionMissing
  else
    let verbose := (flagState items .ignoreWhitespace).getD next.verbose
    return { r with
      cursor := { next with verbose }
      sequence := r.sequence.push (.flags ⟨span.start, next.pos⟩ items) }

/-- Reads the start of a group, or flags; the parenthesis is next. -/
def Reader.openGroup (r : Reader) : Reading Reader :=
  let span := r.cursor.spanChar
  let c := r.cursor.advance
  match pastLookAround? c with
  | some stop => refuse ⟨span.start, stop.pos⟩ .unsupportedLookAround
  | none =>
    match (c.past? "?P<").or (c.past? "?<"), c.past? "?" with
    | some name, _ => r.openNamed span name
    | none, some flags => r.openFlags span c.pos flags
    | none, none =>
      let index := r.captures + 1
      .ok ({ r with captures := index }.open span (.capture index) c)

/-- Ends the innermost group; the parenthesis is next. -/
def Reader.closeGroup (r : Reader) : Reading Reader :=
  let stop := r.cursor.pos
  let next := r.cursor.bump
  let close (outer : Sequence) (span : Span) (kind : GroupKind) (verbose : Bool) (sub : Tree)
      (frames : List Frame) : Reader :=
    { r with
      cursor := { next with verbose }
      sequence := outer.push (.group ⟨span.start, next.pos⟩ kind sub)
      frames }
  match r.frames with
  | .group outer span kind verbose :: frames =>
    .ok (close outer span kind verbose (r.sequence.toTree stop) frames)
  | .alternation start branches :: .group outer span kind verbose :: frames =>
    let branches := (r.sequence.toTree stop :: branches).reverse
    .ok (close outer span kind verbose (.alternation ⟨start, stop⟩ branches) frames)
  | _ => refuse r.cursor.spanChar .groupUnopened

/-- Ends a branch of an alternation; the bar is next. -/
def Reader.nextBranch (r : Reader) : Reader :=
  let branch := r.sequence.toTree r.cursor.pos
  let next := r.cursor.bump
  let frames := match r.frames with
    | .alternation start branches :: frames => .alternation start (branch :: branches) :: frames
    | frames => .alternation r.sequence.start [branch] :: frames
  { r with cursor := next, sequence := { start := next.pos }, frames }

/-! ### Repetitions -/

/-- The pattern that a repetition operator at `c` applies to, and the ones before it. -/
def Sequence.operand (s : Sequence) (c : Cursor) : Reading (Tree × Sequence) :=
  match s.parts with
  | .empty _ :: _ => refuse c.here .repetitionMissing
  | .flags _ _ :: _ => refuse c.here .repetitionMissing
  | t :: parts => .ok (t, { s with parts })
  | [] => refuse c.here .repetitionMissing

/-- Ends a repetition behind its operator: a question mark makes it prefer few repetitions. -/
def Reader.finishRepetition (r : Reader) (before : Sequence) (sub : Tree) (bounds : Bounds)
    (c : Cursor) : Reader :=
  let (greedy, next) := if c.char? == some '?' then (false, c.bump) else (true, c)
  { r with
    cursor := next
    sequence := before.push (.repetition ⟨sub.span.start, next.pos⟩ bounds greedy sub) }

/-- Reads a repetition operator of one character, which is next. -/
def Reader.repeat (r : Reader) (bounds : Bounds) : Reading Reader := do
  let (sub, before) ← r.sequence.operand r.cursor
  return r.finishRepetition before sub bounds r.cursor.bump

/-- A count of repetitions must be there. -/
def asCount (n : Reading Nat) : Reading Nat :=
  match n with
  | .error fault =>
    .error (if fault.kind = .decimalEmpty then { fault with kind := .repetitionCountDecimalEmpty }
      else fault)
  | .ok n => .ok n

/-- Reads the bounds in the braces of a repetition; the opening brace is next. The cursor is left at
the closing one. -/
def readBounds (c : Cursor) : Reading (Bounds × Cursor) := do
  let unclosed {α : Type} (stop : Cursor) : Reading α :=
    refuse ⟨c.pos, stop.pos⟩ .repetitionCountUnclosed
  let inner := c.advance
  if inner.atEnd then unclosed inner
  let (first, stop) := readDecimal inner
  let first := asCount first
  if stop.atEnd then unclosed stop
  if stop.char? == some ',' then
    let second := stop.advance
    if second.atEnd then unclosed second
    if second.char? == some '}' then
      return ({ min := ← first, max := none }, second)
    else
      let min ← first
      let (last, stop) := readDecimal second
      let max ← asCount last
      if stop.char? != some '}' then unclosed stop
      return ({ min, max := some max }, stop)
  else
    let count ← first
    if stop.char? != some '}' then unclosed stop
    return ({ min := count, max := some count }, stop)

/-- Reads a repetition operator with bounds in braces; the opening brace is next. -/
def Reader.repeatCounted (r : Reader) : Reading Reader := do
  let (sub, before) ← r.sequence.operand r.cursor
  let (bounds, stop) ← readBounds r.cursor
  let next := r.finishRepetition before sub bounds stop.advance
  if bounds.max.any (· < bounds.min) then
    refuse ⟨r.cursor.pos, next.cursor.pos⟩ .repetitionCountInvalid
  return next

/-! ### The whole pattern -/

/-- Reads the next token, which starts with `ch`. -/
def Reader.step (r : Reader) (ch : Char) : Reading Reader :=
  match ch with
  | '(' => r.openGroup
  | ')' => r.closeGroup
  | '|' => .ok r.nextBranch
  | '[' => do
    let (tree, next) ← readBracketed r.cursor
    return { r with cursor := next, sequence := r.sequence.push tree }
  | '?' => r.repeat ⟨0, some 1⟩
  | '*' => r.repeat ⟨0, none⟩
  | '+' => r.repeat ⟨1, none⟩
  | '{' => r.repeatCounted
  | _ => do
    let (primitive, next) ← readPrimitive ch r.cursor
    return { r with cursor := next, sequence := r.sequence.push primitive.toTree }

/-- The pattern, when it is used up: no group may be open. -/
def Reader.finish (r : Reader) : Reading Tree :=
  let stop := r.cursor.pos
  match r.frames with
  | [] => .ok (r.sequence.toTree stop)
  | [.alternation start branches] =>
    .ok (.alternation ⟨start, stop⟩ (r.sequence.toTree stop :: branches).reverse)
  | .group _ span _ _ :: _ => refuse span .groupUnclosed
  | .alternation _ _ :: .group _ span _ _ :: _ => refuse span .groupUnclosed
  | .alternation _ _ :: .alternation _ _ :: _ => refuse r.cursor.here .groupUnclosed

/-- Reads tokens until the pattern is used up. -/
def Reader.run : Nat → Reader → Reading Tree
  | 0, r => r.finish
  | fuel + 1, r =>
    let r := { r with cursor := r.cursor.skipBlank }
    match r.cursor.char? with
    | none => r.finish
    | some ch => do Reader.run fuel (← r.step ch)

/-! ### Depth -/

/-- How deeply patterns may nest. -/
def nestLimit : Nat := 250

/-- Refuses to go below `depth` when that is the limit. -/
def checkEnter (depth : Nat) (span : Span) : Reading Unit :=
  if nestLimit ≤ depth then refuse span (.nestLimitExceeded nestLimit) else .ok ()

mutual

/-- Refuses a class term below `depth` that nests too deeply. -/
def ClassTerm.checkDepth (depth : Nat) : ClassTerm → Reading Unit
  | .bracketed span _ inner => do
    checkEnter depth span
    inner.checkDepth (depth + 1)
  | .union span items => do
    checkEnter depth span
    ClassTerm.checkDepths (depth + 1) items
  | .binary span _ left right => do
    checkEnter depth span
    left.checkDepth (depth + 1)
    right.checkDepth (depth + 1)
  | _ => .ok ()

/-- Refuses class terms below `depth` of which one nests too deeply. -/
def ClassTerm.checkDepths (depth : Nat) : List ClassTerm → Reading Unit
  | [] => .ok ()
  | t :: rest => do
    t.checkDepth depth
    ClassTerm.checkDepths depth rest

end

mutual

/-- Refuses a pattern below `depth` that nests too deeply. -/
def Tree.checkDepth (depth : Nat) : Tree → Reading Unit
  | .bracketed span _ inner => do
    checkEnter depth span
    inner.checkDepth (depth + 1)
  | .repetition span _ _ sub => do
    checkEnter depth span
    sub.checkDepth (depth + 1)
  | .group span _ sub => do
    checkEnter depth span
    sub.checkDepth (depth + 1)
  | .alternation span branches => do
    checkEnter depth span
    Tree.checkDepths (depth + 1) branches
  | .concat span parts => do
    checkEnter depth span
    Tree.checkDepths (depth + 1) parts
  | _ => .ok ()

/-- Refuses patterns below `depth` of which one nests too deeply. -/
def Tree.checkDepths (depth : Nat) : List Tree → Reading Unit
  | [] => .ok ()
  | t :: rest => do
    t.checkDepth depth
    Tree.checkDepths depth rest

end

/-- Reads a pattern. Every token takes at least one character, so the length of the text bounds the
tokens. -/
def parse (text : String) : Reading Tree := do
  let chars := text.toList
  let tree ← Reader.run chars.length { cursor := { rest := chars }, sequence := { start := {} } }
  tree.checkDepth 0
  return tree

end GramSieve.Pattern
