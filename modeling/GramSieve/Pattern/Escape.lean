import GramSieve.Pattern.Cursor
import GramSieve.Pattern.Tree

namespace GramSieve.Pattern

/-!
# Single characters and escapes

* `Primitive` — what a single character or an escape stands for.
* `readEscape`, `readPrimitive` — read one primitive.
* `isMeta`, `escapeText` — the characters that a backslash makes literal, and text with them escaped.
-/

/-- What one character or escape stands for. -/
inductive Primitive where
  | literal (l : Literal)
  | assertion (span : Span) (kind : AssertionKind)
  | dot (span : Span)
  | perl (p : PerlClass)
  | property (p : PropertyClass)
  deriving Repr, Inhabited

namespace Primitive

/-- The text of the primitive. -/
def span : Primitive → Span
  | .literal l => l.span
  | .assertion s _ => s
  | .dot s => s
  | .perl p => p.span
  | .property p => p.span

/-- The primitive as a pattern. -/
def toTree : Primitive → Tree
  | .literal l => .literal l
  | .assertion s k => .assertion s k
  | .dot s => .dot s
  | .perl p => .perl p
  | .property p => .property p

/-- The primitive as a member of a bracketed class. -/
def toClassTerm : Primitive → Reading ClassTerm
  | .literal l => .ok (.literal l)
  | .perl p => .ok (.perl p)
  | .property p => .ok (.property p)
  | p => refuse p.span .classEscapeInvalid

/-- The primitive as an end of a range. -/
def toRangeEnd : Primitive → Reading Literal
  | .literal l => .ok l
  | p => refuse p.span .classRangeLiteral

end Primitive

/-! ### Numbers -/

/-- Whether `c` is a hexadecimal digit. -/
def isHexDigit (c : Char) : Bool :=
  ('0' ≤ c && c ≤ '9') || ('a' ≤ c && c ≤ 'f') || ('A' ≤ c && c ≤ 'F')

/-- The number that hexadecimal digits write. -/
def hexNumber (digits : List Char) : Nat :=
  digits.foldl (fun n c =>
    n * 16 + (if c ≤ '9' then c.toNat - 48 else if c ≤ 'F' then c.toNat - 55 else c.toNat - 87)) 0

/-- The character that hexadecimal digits name, if they name one. -/
def hexChar? (digits : List Char) : Option Char :=
  let n := hexNumber digits
  if n.isValidChar then some (Char.ofNat n) else none

/-- The number that decimal digits write. -/
def decimalNumber (digits : List Char) : Nat :=
  digits.foldl (fun n c => n * 10 + (c.toNat - 48)) 0

/-- Reads a number below `2 ^ 32`, with blanks around it. -/
def readDecimal (c : Cursor) : Reading Nat × Cursor :=
  let (_, start) := c.takeWhile Cursor.bump Unicode.isWhiteSpace
  let (digits, stop) := start.takeWhile Cursor.advance Char.isDigit
  let (_, next) := stop.takeWhile Cursor.advance Unicode.isWhiteSpace
  let span : Span := ⟨start.pos, stop.pos⟩
  let value : Reading Nat :=
    if digits.isEmpty then refuse span .decimalEmpty
    else
      let n := decimalNumber digits
      if n < UInt32.size then .ok n else refuse span .decimalInvalid
  (value, next)

/-! ### Escapes by number -/

/-- Reads `count` hexadecimal digits, the first of which is next. -/
def readHexDigits : Nat → Cursor → Reading (List Char × Cursor)
  | 0, c => .ok ([], c)
  | count + 1, c =>
    match c.char? with
    | none => refuse c.here .escapeUnexpectedEnd
    | some ch =>
      if isHexDigit ch then do
        let (digits, stop) ← readHexDigits count c.advance
        return (ch :: digits, stop)
      else refuse c.spanChar .escapeHexInvalidDigit

/-- Reads an escape of a fixed count of hexadecimal digits. -/
def readHexFixed (start : Position) (count : Nat) (c : Cursor) : Reading (Literal × Cursor) := do
  let (digits, stop) ← readHexDigits count c
  match hexChar? digits with
  | none => refuse ⟨c.pos, stop.pos⟩ .escapeHexInvalid
  | some char => return ({ span := ⟨start, stop.pos⟩, char, isByte := count == 2 }, stop)

/-- Reads hexadecimal digits in braces; the opening brace is next. -/
def readHexBraced (start : Position) (c : Cursor) : Reading (Literal × Cursor) :=
  let (digits, stop) := c.advance.takeWhile Cursor.advance isHexDigit
  match stop.char? with
  | none => refuse ⟨c.pos, stop.pos⟩ .escapeUnexpectedEnd
  | some '}' =>
    let next := stop.advance
    if digits.isEmpty then refuse ⟨c.pos, next.pos⟩ .escapeHexEmpty
    else
      match hexChar? digits with
      | none => refuse ⟨c.bump.pos, stop.pos⟩ .escapeHexInvalid
      | some char => .ok ({ span := ⟨start, next.pos⟩, char }, next)
  | some _ => refuse stop.spanChar .escapeHexInvalidDigit

/-- Reads an escape by number; the letter `x`, `u` or `U` is next. -/
def readHex (start : Position) (letter : Char) (c : Cursor) : Reading (Literal × Cursor) :=
  let c := c.advance
  match c.char? with
  | none => refuse c.here .escapeUnexpectedEnd
  | some '{' => readHexBraced start c
  | some _ => readHexFixed start (if letter = 'x' then 2 else if letter = 'u' then 4 else 8) c

/-! ### Unicode properties -/

/-- The text before and behind the first occurrence of `mark`. -/
def splitAtMark (mark : List Char) : List Char → Option (List Char × List Char)
  | [] => none
  | c :: rest =>
    if mark.isPrefixOf (c :: rest) then some ([], (c :: rest).drop mark.length)
    else (splitAtMark mark rest).map fun (before, behind) => (c :: before, behind)

/-- What the text in the braces of `\p` asks for, and whether it asks for the negation. -/
def propertyQuery (text : List Char) : PropertyQuery × Bool :=
  let valued (parts : List Char × List Char) : PropertyQuery :=
    .valued (String.ofList parts.1) (String.ofList parts.2)
  match splitAtMark ['!', '='] text with
  | some parts => (valued parts, true)
  | none =>
    match (splitAtMark [':'] text).or (splitAtMark ['='] text) with
    | some parts => (valued parts, false)
    | none => (.named (String.ofList text), false)

/-- Reads a class by property; the letter `p` or `P` is next. -/
def readProperty (start : Position) (letter : Char) (c : Cursor) :
    Reading (PropertyClass × Cursor) :=
  let negated := letter == 'P'
  let c := c.advance
  match c.char? with
  | none => refuse c.here .escapeUnexpectedEnd
  | some '{' =>
    let (text, stop) := c.advance.takeWhile Cursor.advance (· != '}')
    if stop.atEnd then refuse stop.here .escapeUnexpectedEnd
    else
      let next := stop.bump
      let (query, flipped) := propertyQuery text
      .ok ({ span := ⟨start, next.pos⟩, negated := negated != flipped, query }, next)
  | some '\\' => refuse c.spanChar .unicodeClassInvalid
  | some letter =>
    let next := c.advance
    .ok ({ span := ⟨start, next.pos⟩, negated, query := .letter letter }, next)

/-! ### Word boundaries -/

/-- The word boundary that a name in braces stands for. -/
def wordBoundary? (name : String) : Option AssertionKind :=
  match name with
  | "start" => some .wordStart
  | "end" => some .wordEnd
  | "start-half" => some .wordStartHalf
  | "end-half" => some .wordEndHalf
  | _ => none

/-- Reads the name of a special word boundary; the brace behind `\b` is next. Without a letter or a
hyphen in the brace this is no such name but a repetition, and nothing is read. -/
def readSpecialBoundary (start : Position) (c : Cursor) :
    Reading (Option (AssertionKind × Cursor)) :=
  let isNameChar (ch : Char) : Bool := ch.isAlpha || ch == '-'
  let inner := c.advance
  match inner.char? with
  | none => refuse ⟨start, inner.pos⟩ .specialWordOrRepetitionUnexpectedEnd
  | some ch =>
    if isNameChar ch then
      let (name, stop) := inner.takeWhile Cursor.advance isNameChar
      if stop.char? == some '}' then
        match wordBoundary? (String.ofList name) with
        | some kind => .ok (some (kind, stop.bump))
        | none => refuse ⟨inner.pos, stop.pos⟩ .specialWordBoundaryUnrecognized
      else refuse ⟨c.pos, stop.pos⟩ .specialWordBoundaryUnclosed
    else .ok none

/-! ### Escapes -/

/-- Whether `c` means something by itself. -/
def isMeta (c : Char) : Bool := "\\.+*?()|[]\x7b\x7d^$#&-~".toList.contains c

/-- Whether a backslash before `c` makes it literal. -/
def isEscapeable (c : Char) : Bool :=
  isMeta c || (c.toNat < 128 && !c.isAlphanum && c != '<' && c != '>')

/-- The text with a backslash before each character that means something by itself. -/
def escapeText (text : String) : String :=
  String.ofList (text.toList.flatMap fun c => if isMeta c then ['\\', c] else [c])

/-- The control character that a letter behind a backslash stands for. -/
def controlChar? (letter : Char) : Option Char :=
  match letter with
  | 'a' => some '\x07'
  | 'f' => some '\x0C'
  | 't' => some '\t'
  | 'n' => some '\n'
  | 'r' => some '\r'
  | 'v' => some '\x0B'
  | _ => none

/-- The class that a letter behind a backslash stands for, and whether it is negated. -/
def perlKind? (letter : Char) : Option (PerlKind × Bool) :=
  match letter with
  | 'd' => some (.digit, false)
  | 'D' => some (.digit, true)
  | 's' => some (.space, false)
  | 'S' => some (.space, true)
  | 'w' => some (.word, false)
  | 'W' => some (.word, true)
  | _ => none

/-- The assertion that a character behind a backslash stands for. -/
def assertion? (letter : Char) : Option AssertionKind :=
  match letter with
  | 'A' => some .startText
  | 'z' => some .endText
  | 'b' => some .wordBoundary
  | 'B' => some .notWordBoundary
  | '<' => some .wordStart
  | '>' => some .wordEnd
  | _ => none

/-- Reads an escape of one character, which is next. -/
def readShortEscape (start : Position) (letter : Char) (c : Cursor) :
    Reading (Primitive × Cursor) :=
  let next := c.bump
  let span : Span := ⟨start, next.pos⟩
  if isEscapeable letter then .ok (.literal { span, char := letter }, next)
  else
    match controlChar? letter, assertion? letter with
    | some char, _ => .ok (.literal { span, char }, next)
    | none, some kind =>
      if letter == 'b' && next.char? == some '{' then do
        match ← readSpecialBoundary start next with
        | some (special, stop) => return (.assertion ⟨start, stop.pos⟩ special, stop)
        | none => return (.assertion span kind, next)
      else .ok (.assertion span kind, next)
    | none, none => refuse span .escapeUnrecognized

/-- Reads an escape; the backslash is next. -/
def readEscape (c : Cursor) : Reading (Primitive × Cursor) :=
  let start := c.pos
  let c := c.bump
  match c.char? with
  | none => refuse ⟨start, c.pos⟩ .escapeUnexpectedEnd
  | some letter =>
    if letter.isDigit then refuse ⟨start, c.bump.pos⟩ .unsupportedBackreference
    else if letter == 'x' || letter == 'u' || letter == 'U' then do
      let (l, next) ← readHex start letter c
      return (.literal l, next)
    else if letter == 'p' || letter == 'P' then do
      let (p, next) ← readProperty start letter c
      return (.property p, next)
    else
      match perlKind? letter with
      | some (kind, negated) =>
        let next := c.bump
        .ok (.perl { span := ⟨start, next.pos⟩, kind, negated }, next)
      | none => readShortEscape start letter c

/-- Reads the character `ch`, which is next, or the escape that it starts. -/
def readPrimitive (ch : Char) (c : Cursor) : Reading (Primitive × Cursor) :=
  match ch with
  | '\\' => readEscape c
  | '.' => .ok (.dot c.spanChar, c.bump)
  | '^' => .ok (.assertion c.spanChar .startLine, c.bump)
  | '$' => .ok (.assertion c.spanChar .endLine, c.bump)
  | _ => .ok (.literal { span := c.spanChar, char := ch }, c.bump)

end GramSieve.Pattern
