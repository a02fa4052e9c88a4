import GramSieve.Pattern.Span

namespace GramSieve.Pattern

/-!
# Faults of a pattern

* `FaultKind` — what can be wrong with a pattern, with its wording.
* `Fault` — a fault and the text that it is about.
* `Fault.render` — the fault shown below the pattern, with the text marked.
-/

/-- What is wrong with a pattern. -/
inductive FaultKind where
  | classEscapeInvalid
  | classRangeInvalid
  | classRangeLiteral
  | classUnclosed
  | decimalEmpty
  | decimalInvalid
  | escapeHexEmpty
  | escapeHexInvalid
  | escapeHexInvalidDigit
  | escapeUnexpectedEnd
  | escapeUnrecognized
  | flagDanglingNegation
  | flagDuplicate
  | flagRepeatedNegation
  | flagUnexpectedEnd
  | flagUnrecognized
  | groupNameDuplicate
  | groupNameEmpty
  | groupNameInvalid
  | groupNameUnexpectedEnd
  | groupUnclosed
  | groupUnopened
  | nestLimitExceeded (limit : Nat)
  | repetitionCountInvalid
  | repetitionCountDecimalEmpty
  | repetitionCountUnclosed
  | repetitionMissing
  | specialWordBoundaryUnclosed
  | specialWordBoundaryUnrecognized
  | specialWordOrRepetitionUnexpectedEnd
  | unicodeClassInvalid
  | unsupportedBackreference
  | unsupportedLookAround
  | unicodeNotAllowed
  | invalidUtf8
  | propertyNotFound
  | propertyValueNotFound
  deriving DecidableEq, Repr, Inhabited

/-- The wording of a fault. -/
def FaultKind.message : FaultKind → String
  | .classEscapeInvalid => "invalid escape sequence found in character class"
  | .classRangeInvalid => "invalid character class range, the start must be <= the end"
  | .classRangeLiteral => "invalid range boundary, must be a literal"
  | .classUnclosed => "unclosed character class"
  | .decimalEmpty => "decimal literal empty"
  | .decimalInvalid => "decimal literal invalid"
  | .escapeHexEmpty => "hexadecimal literal empty"
  | .escapeHexInvalid => "hexadecimal literal is not a Unicode scalar value"
  | .escapeHexInvalidDigit => "invalid hexadecimal digit"
  | .escapeUnexpectedEnd => "incomplete escape sequence, reached end of pattern prematurely"
  | .escapeUnrecognized => "unrecognized escape sequence"
  | .flagDanglingNegation => "dangling flag negation operator"
  | .flagDuplicate => "duplicate flag"
  | .flagRepeatedNegation => "flag negation operator repeated"
  | .flagUnexpectedEnd => "expected flag but got end of regex"
  | .flagUnrecognized => "unrecognized flag"
  | .groupNameDuplicate => "duplicate capture group name"
  | .groupNameEmpty => "empty capture group name"
  | .groupNameInvalid => "invalid capture group character"
  | .groupNameUnexpectedEnd => "unclosed capture group name"
  | .groupUnclosed => "unclosed group"
  | .groupUnopened => "unopened group"
  | .nestLimitExceeded limit =>
    s!"exceed the maximum number of nested parentheses/brackets ({limit})"
  | .repetitionCountInvalid => "invalid repetition count range, the start must be <= the end"
  | .repetitionCountDecimalEmpty => "repetition quantifier expects a valid decimal"
  | .repetitionCountUnclosed => "unclosed counted repetition"
  | .repetitionMissing => "repetition operator missing expression"
  | .specialWordBoundaryUnclosed =>
    "special word boundary assertion is either unclosed or contains an invalid character"
  | .specialWordBoundaryUnrecognized =>
    "unrecognized special word boundary assertion, valid choices are: start, end, start-half " ++
      "or end-half"
  | .specialWordOrRepetitionUnexpectedEnd =>
    "found either the beginning of a special word boundary or a bounded repetition on a \\b with " ++
      "an opening brace, but no closing brace"
  | .unicodeClassInvalid => "invalid Unicode character class"
  | .unsupportedBackreference => "backreferences are not supported"
  | .unsupportedLookAround => "look-around, including look-ahead and look-behind, is not supported"
  | .unicodeNotAllowed => "Unicode not allowed here"
  | .invalidUtf8 => "pattern can match invalid UTF-8"
  | .propertyNotFound => "Unicode property not found"
  | .propertyValueNotFound => "Unicode property value not found"

/-- A fault, the text that it is about, and an earlier text that it clashes with. -/
structure Fault where
  kind : FaultKind
  span : Span
  earlier : Option Span := none
  deriving DecidableEq, Repr, Inhabited

namespace Fault

/-- The lines of a text. A newline ends a line, and a carriage return before it does not count. -/
def textLines (text : String) : List String :=
  let lines := (text.splitToList (· == '\n'))
  let lines := if lines.getLast? == some "" then lines.dropLast else lines
  let withoutReturn (line : String) : String :=
    if line.endsWith "\r" then (line.dropEnd 1).toString else line
  let last := lines.length - 1
  lines.mapIdx fun i line => if i < last || text.endsWith "\n" then withoutReturn line else line

/-- The marks below a line: carets under each span, of which there is at least one. -/
def marks (indent : Nat) (spans : List Span) : String :=
  let step (drawn : List Char) (s : Span) : List Char :=
    let gap := List.replicate (s.start.column - 1 - drawn.length) ' '
    drawn ++ gap ++ List.replicate (max 1 (s.stop.column - s.start.column)) '^'
  String.ofList (List.replicate indent ' ' ++ spans.foldl step [])

/-- The pattern with marks below the lines that the spans are on. Lines are numbered if there are
several. -/
def notate (pattern : String) (spans : List Span) : String :=
  let lines := textLines pattern
  let lineCount := lines.length + (if pattern.endsWith "\n" then 1 else 0)
  let width := if lineCount ≤ 1 then 0 else (toString lineCount).length
  let label (i : Nat) : String :=
    if width = 0 then "    "
    else
      let number := toString (i + 1)
      String.ofList (List.replicate (width - number.length) ' ') ++ number ++ ": "
  let indent := if width = 0 then 4 else width + 2
  String.join <| lines.mapIdx fun i line =>
    let here := spans.filter fun s => s.onOneLine && s.start.line == i + 1
    label i ++ line ++ "\n" ++ (if here.isEmpty then "" else marks indent here ++ "\n")

/-- The fault as a report: the pattern with the text at fault marked, and what is wrong. -/
def render (pattern : String) (fault : Fault) : String :=
  let spans := (fault.span :: fault.earlier.toList).mergeSort Span.le
  let notated := notate pattern spans
  if pattern.contains '\n' then
    let divider := String.ofList (List.replicate 79 '~') ++ "\n"
    let across := spans.filter fun s => !s.onOneLine
    let notes := across.map fun s =>
      s!"on line {s.start.line} (column {s.start.column}) through line {s.stop.line} " ++
        s!"(column {s.stop.column - 1})"
    let noted := if notes.isEmpty then "" else "\n".intercalate notes ++ "\n"
    "regex parse error:\n" ++ divider ++ notated ++ divider ++ noted ++ "error: " ++
      fault.kind.message
  else
    "regex parse error:\n" ++ notated ++ "error: " ++ fault.kind.message

end Fault

end GramSieve.Pattern
