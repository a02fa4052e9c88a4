import GramSieve.Pattern.Tree
import GramSieve.CodeSet
import GramSieve.Text.CaseFold

namespace GramSieve.Pattern

/-!
# Folding patterns

Literals and ranges of a pattern are replaced by their folded forms, so that the pattern matches
folded text. Classes by name stay as they are, and negated classes keep their meaning: `[^A]` folds
to `[^a]`.

* `foldRange?` — what a range becomes, or nothing if it stays.
* `Tree.fold` — the folded pattern.
-/

open Text

/-- Ranges up to this many code points are folded member by member. -/
def maxExpandedRange : Nat := 512

/-- The characters from `lo` to `hi`. -/
def charsBetween (lo hi : Nat) : List Char :=
  (List.range' lo (hi + 1 - lo)).filterMap fun n =>
    if n.isValidChar then some (Char.ofNat n) else none

/-- The code points in ascending order, each once. -/
def sortedDistinct (ns : List Nat) : List Nat :=
  let rec distinct : List Nat → List Nat
    | [] => []
    | [n] => [n]
    | n :: m :: rest => if n = m then distinct (m :: rest) else n :: distinct (m :: rest)
  distinct (ns.mergeSort (· ≤ ·))

/-- Ascending code points as ranges without gaps. -/
def runs (ns : List Nat) : List CodeRange :=
  let rec go (current : CodeRange) : List Nat → List CodeRange
    | [] => [current]
    | n :: rest =>
      if h : n = current.hi + 1 then
        go { lo := current.lo, hi := n, lo_le_hi := h ▸ Nat.le_succ_of_le current.lo_le_hi } rest
      else current :: go (.single n) rest
  match ns with
  | [] => []
  | n :: rest => go (.single n) rest

/-- The folded forms of the characters from `lo` to `hi`. -/
def foldedMembers (fold : CaseFold) (lo hi : Nat) : List Nat :=
  (charsBetween lo hi).map fun c => (fold.fold c).toNat

/-- The ranges of code points that a range becomes, or nothing if it stays. A wide range keeps its
span and gains the folded forms that fall outside. -/
def foldedRanges? (fold : CaseFold) (lo hi : Nat) : Option (List CodeRange) :=
  if hi - lo < maxExpandedRange then
    let members := sortedDistinct (foldedMembers fold lo hi)
    if members.length = hi - lo + 1 && members.head? == some lo then none else some (runs members)
  else
    let images := foldedMembers fold lo (min hi lastCasedCodePoint)
    let outside := sortedDistinct (images.filter fun n => n < lo || hi < n)
    if outside.isEmpty then none else some (.between lo hi :: runs outside)

/-- What a range becomes, or nothing if it stays. -/
def foldRange? (fold : CaseFold) (span : Span) (first last : Literal) : Option ClassTerm :=
  let lo := first.char.toNat
  let hi := last.char.toNat
  let literal (n : Nat) : Literal := { span, char := Char.ofNat n }
  let item (r : CodeRange) : ClassTerm :=
    if r.lo = lo && r.hi = hi then .range span first last
    else if r.lo = r.hi then .literal (literal r.lo)
    else .range span (literal r.lo) (literal r.hi)
  (foldedRanges? fold lo hi).map fun ranges =>
    match ranges.map item with
    | [term] => term
    | items => .union span items

/-- The folded form of a literal. -/
def Literal.fold (fold : CaseFold) (l : Literal) : Literal := { l with char := fold.fold l.char }

mutual

/-- The folded form of a class. -/
def ClassTerm.fold (fold : CaseFold) : ClassTerm → ClassTerm
  | .literal l => .literal (l.fold fold)
  | .range span first last =>
    (foldRange? fold span first last).getD (.range span first last)
  | .bracketed span negated inner => .bracketed span negated (inner.fold fold)
  | .union span items => .union span (ClassTerm.foldAll fold items)
  | .binary span op left right => .binary span op (left.fold fold) (right.fold fold)
  | t => t

/-- The folded forms of several classes. -/
def ClassTerm.foldAll (fold : CaseFold) : List ClassTerm → List ClassTerm
  | [] => []
  | t :: rest => t.fold fold :: ClassTerm.foldAll fold rest

end

mutual

/-- The folded form of a pattern. -/
def Tree.fold (fold : CaseFold) : Tree → Tree
  | .literal l => .literal (l.fold fold)
  | .bracketed span negated inner => .bracketed span negated (inner.fold fold)
  | .repetition span bounds greedy sub => .repetition span bounds greedy (sub.fold fold)
  | .group span kind sub => .group span kind (sub.fold fold)
  | .alternation span branches => .alternation span (Tree.foldAll fold branches)
  | .concat span parts => .concat span (Tree.foldAll fold parts)
  | t => t

/-- The folded forms of several patterns. -/
def Tree.foldAll (fold : CaseFold) : List Tree → List Tree
  | [] => []
  | t :: rest => t.fold fold :: Tree.foldAll fold rest

end

end GramSieve.Pattern
