import GramSieve.Pattern.PropertySet
import GramSieve.Pattern.Cursor
import GramSieve.Regex.Build
import GramSieve.Unicode.CaseShift
import Std.Data.HashSet

namespace GramSieve.Regex

/-!
# Regular expressions of patterns

Resolves the flags, classes and names of a pattern. Flags set inside a group hold to the end of the
group, across its branches.

* `Flags` — the flags that hold at a place.
* `caseClosure` — a set together with the case variants of its members.
* `resolve` — the regular expression of a pattern.
-/

open Pattern

/-- The flags that hold at a place of a pattern. -/
structure Flags where
  caseInsensitive : Bool := false
  multiLine : Bool := false
  dotMatchesNewLine : Bool := false
  swapGreed : Bool := false
  unicode : Bool := true
  crlf : Bool := false
  deriving DecidableEq, Repr, Inhabited

namespace Flags

/-- The flags after the items of a list of flags are set or cleared. Flags behind a hyphen are
cleared. -/
def apply (items : List FlagItem) (flags : Flags) : Flags :=
  let rec go (value : Bool) (flags : Flags) : List FlagItem → Flags
    | [] => flags
    | item :: rest =>
      match item.kind with
      | .negation => go false flags rest
      | .flag .caseInsensitive => go value { flags with caseInsensitive := value } rest
      | .flag .multiLine => go value { flags with multiLine := value } rest
      | .flag .dotMatchesNewLine => go value { flags with dotMatchesNewLine := value } rest
      | .flag .swapGreed => go value { flags with swapGreed := value } rest
      | .flag .unicode => go value { flags with unicode := value } rest
      | .flag .crlf => go value { flags with crlf := value } rest
      | .flag .ignoreWhitespace => go value flags rest
  go true flags items

/-- The alphabet that classes are drawn from. -/
def alphabet (flags : Flags) : Alphabet := if flags.unicode then .unicode else .bytes

end Flags

/-! ### Case variants -/

/-- Each character with case variants, and the least of its variants. -/
def variantPairs : List (Nat × Nat) :=
  Unicode.variantShifts.flatMap fun s =>
    (List.range ((s.hi - s.lo) / s.step + 1)).map fun i =>
      let n := s.lo + s.step * i
      (n, ((n : Int) + s.distance).toNat)

/-- A set together with the characters that simple case folding identifies with its members. -/
def unicodeCaseClosure (set : CodeSet) : CodeSet :=
  let table := set.toArray
  let member (n : Nat) : Bool := Unicode.tableContains table n
  let hits := variantPairs.filter fun (n, least) => member n || member least
  let classes := hits.foldl (fun t (_, least) => t.insert least) (∅ : Std.HashSet Nat)
  let added := variantPairs.filter fun (_, least) => classes.contains least
  if added.isEmpty then set
  else CodeSet.normalize (set ++ added.flatMap fun (n, least) => [CodeRange.single n, .single least])

/-- A set of bytes together with the ASCII letters of the other case. -/
def asciiCaseClosure (set : CodeSet) : CodeSet :=
  let lower := CodeSet.inter set [.between 0x61 0x7A]
  let upper := CodeSet.inter set [.between 0x41 0x5A]
  CodeSet.normalize (set ++ lower.map (fun r => .between (r.lo - 32) (r.hi - 32)) ++
    upper.map (fun r => .between (r.lo + 32) (r.hi + 32)))

/-- A set together with the case variants of its members. -/
def caseClosure : Alphabet → CodeSet → CodeSet
  | .unicode => unicodeCaseClosure
  | .bytes => asciiCaseClosure

/-! ### Classes -/

/-- The case variants of a set are added if case does not count, then the set is complemented if it
is negated. -/
def closeAndNegate (flags : Flags) (alphabet : Alphabet) (negated : Bool) (set : CodeSet) :
    CodeSet :=
  let set := if flags.caseInsensitive then caseClosure alphabet set else set
  if negated then CodeSet.complement alphabet set else set

/-- A set of bytes must be ASCII, since other bytes are no text. -/
def checkText (alphabet : Alphabet) (span : Span) (set : CodeSet) : Reading CodeSet :=
  if alphabet = .bytes && !set.isAscii then refuse span .invalidUtf8 else .ok set

/-- The set of a class in brackets, after its members are known. -/
def finishClass (flags : Flags) (span : Span) (negated : Bool) (set : CodeSet) : Reading CodeSet :=
  checkText flags.alphabet span (closeAndNegate flags flags.alphabet negated set)

/-- The set of a class by property. -/
def resolveProperty (flags : Flags) (p : PropertyClass) : Reading CodeSet :=
  if flags.unicode then
    match p.query.resolve with
    | .ok set => .ok (closeAndNegate flags .unicode p.negated set)
    | .error kind => refuse p.span kind
  else refuse p.span .unicodeNotAllowed

/-- The set of a class such as `\d`. These are closed under case variants. -/
def resolvePerl (flags : Flags) (p : PerlClass) : Reading CodeSet :=
  let set := p.kind.set flags.alphabet
  checkText flags.alphabet p.span
    (if p.negated then CodeSet.complement flags.alphabet set else set)

/-- A literal must be a character, or a byte that is one. -/
def checkByte (flags : Flags) (l : Literal) : Reading Char :=
  let n := l.char.toNat
  if !flags.unicode && l.isByte && 0x7F < n && n ≤ 0xFF then refuse l.span .invalidUtf8
  else .ok l.char

/-- The code point that a literal adds to a class. -/
def resolveMember (flags : Flags) (l : Literal) : Reading Nat := do
  let c ← checkByte flags l
  if !flags.unicode && 0x7F < c.toNat then refuse l.span .unicodeNotAllowed
  else return c.toNat

/-- Joins the sides of an operator. -/
def applyOp (alphabet : Alphabet) : ClassOp → CodeSet → CodeSet → CodeSet
  | .intersection, s, t => CodeSet.inter s t
  | .difference, s, t => CodeSet.diff alphabet s t
  | .symmetricDifference, s, t => CodeSet.symmDiff alphabet s t

mutual

/-- The set of the members of a class. -/
def resolveTerm (flags : Flags) : ClassTerm → Reading CodeSet
  | .empty _ => .ok []
  | .literal l => do return [CodeRange.single (← resolveMember flags l)]
  | .range _ first last => do
    return [CodeRange.between (← resolveMember flags first) (← resolveMember flags last)]
  | .ascii span kind negated => finishClass flags span negated kind.set
  | .property p => resolveProperty flags p
  | .perl p => resolvePerl flags p
  | .bracketed span negated inner => do finishClass flags span negated (← resolveTerm flags inner)
  | .union _ items => do return CodeSet.normalize (← resolveTerms flags items)
  | .binary _ op left right => do
    let s ← resolveTerm flags left
    let t ← resolveTerm flags right
    let close := if flags.caseInsensitive then caseClosure flags.alphabet else id
    return applyOp flags.alphabet op (close s) (close t)

/-- The ranges of the members of several terms. -/
def resolveTerms (flags : Flags) : List ClassTerm → Reading CodeSet
  | [] => .ok []
  | t :: rest => do return (← resolveTerm flags t) ++ (← resolveTerms flags rest)

end

/-! ### Patterns -/

/-- A literal, or the class of its case variants if case does not count. -/
def resolveLiteral (flags : Flags) (l : Literal) : Reading Regex := do
  let c ← checkByte flags l
  if !flags.caseInsensitive || (!flags.unicode && !c.isAlpha) then return ofText [c]
  else return mkClass flags.alphabet (caseClosure flags.alphabet [CodeRange.single c.toNat])

/-- The dot: any character, or any that ends no line. -/
def resolveDot (flags : Flags) (span : Span) : Reading Regex :=
  if !flags.unicode then refuse span .invalidUtf8
  else if flags.dotMatchesNewLine then .ok anyChar
  else if flags.crlf then
    .ok (.oneOf .unicode [.between 0 0x09, .between 0x0B 0x0C, .between 0x0E 0x10FFFF])
  else .ok (.oneOf .unicode [.between 0 0x09, .between 0x0B 0x10FFFF])

/-- The assertion of a given kind under the flags. -/
def resolveAssertion (flags : Flags) : AssertionKind → Look
  | .startLine =>
    if !flags.multiLine then .start else if flags.crlf then .startLineCrlf else .startLine
  | .endLine => if !flags.multiLine then .stop else if flags.crlf then .stopLineCrlf else .stopLine
  | .startText => .start
  | .endText => .stop
  | .wordBoundary => if flags.unicode then .wordUnicode else .wordAscii
  | .notWordBoundary => if flags.unicode then .wordUnicodeNegate else .wordAsciiNegate
  | .wordStart => if flags.unicode then .wordStartUnicode else .wordStartAscii
  | .wordEnd => if flags.unicode then .wordStopUnicode else .wordStopAscii
  | .wordStartHalf => if flags.unicode then .wordStartHalfUnicode else .wordStartHalfAscii
  | .wordEndHalf => if flags.unicode then .wordStopHalfUnicode else .wordStopHalfAscii

/-- The group of a given kind around an expression. -/
def resolveGroup : GroupKind → Regex → Regex
  | .capture index, r => mkCapture index none r
  | .named index name, r => mkCapture index (some name) r
  | .flags _, r => r

mutual

/-- The expression of a pattern under the flags that hold before it, and the flags that hold behind
it. -/
def resolveTree (flags : Flags) : Tree → Reading (Regex × Flags)
  | .empty _ => .ok (.empty, flags)
  | .flags _ items => .ok (.empty, flags.apply items)
  | .literal l => do return (← resolveLiteral flags l, flags)
  | .dot span => do return (← resolveDot flags span, flags)
  | .assertion _ kind => .ok (.look (resolveAssertion flags kind), flags)
  | .property p => do return (mkClass .unicode (← resolveProperty flags p), flags)
  | .perl p => do return (mkClass flags.alphabet (← resolvePerl flags p), flags)
  | .bracketed span negated inner => do
    let set ← finishClass flags span negated (← resolveTerm flags inner)
    return (mkClass flags.alphabet set, flags)
  | .repetition _ bounds greedy sub => do
    let (r, flags) ← resolveTree flags sub
    return (mkRepetition bounds.min bounds.max (greedy != flags.swapGreed) r, flags)
  | .group _ kind sub => do
    let inner := match kind with
      | .flags items => flags.apply items
      | _ => flags
    let (r, _) ← resolveTree inner sub
    return (resolveGroup kind r, flags)
  | .alternation _ branches => do
    let (rs, flags) ← resolveTrees flags branches
    return (mkAlternation rs, flags)
  | .concat _ parts => do
    let (rs, flags) ← resolveTrees flags parts
    return (mkConcat rs, flags)

/-- The expressions of patterns that follow each other in the text. -/
def resolveTrees (flags : Flags) : List Tree → Reading (List Regex × Flags)
  | [] => .ok ([], flags)
  | t :: rest => do
    let (r, flags) ← resolveTree flags t
    let (rs, flags) ← resolveTrees flags rest
    return (r :: rs, flags)

end

/-- The regular expression of a pattern. -/
def resolve (t : Tree) : Reading Regex := do return (← resolveTree {} t).1

end GramSieve.Regex
