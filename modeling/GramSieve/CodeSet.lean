namespace GramSieve

/-!
# Sets of code points

A set of code points is a list of ranges. Over the Unicode alphabet the surrogates are skipped: the
successor of `0xD7FF` is `0xE000`.

* `CodeSet.normalize` — sorts ranges and merges those that overlap or touch.
* `CodeSet.union`, `inter`, `diff`, `symmDiff`, `complement` — the set operations; each keeps the
  ranges sorted and apart.
* `CodeSet.ofText` — reads ranges as the Unicode Character Database writes them (`41-5A B5`).
-/

/-- The code points from `lo` to `hi`, both included. -/
structure CodeRange where
  lo : Nat
  hi : Nat
  lo_le_hi : lo ≤ hi := by omega
  deriving DecidableEq, Repr, Hashable

instance : Inhabited CodeRange := ⟨{ lo := 0, hi := 0 }⟩

namespace CodeRange

/-- The range between two code points given in either order. -/
def between (a b : Nat) : CodeRange := { lo := min a b, hi := max a b }

/-- The range that holds `n` alone. -/
def single (n : Nat) : CodeRange := { lo := n, hi := n }

/-- How many code points the range spans. -/
def width (r : CodeRange) : Nat := r.hi - r.lo + 1

/-- Whether the range holds the code point `n`. -/
def contains (r : CodeRange) (n : Nat) : Bool := r.lo ≤ n && n ≤ r.hi

/-- Whether two ranges have a code point in common. -/
def overlaps (r s : CodeRange) : Bool := max r.lo s.lo ≤ min r.hi s.hi

/-- The order of ranges: by lower end, then by upper end. -/
def le (r s : CodeRange) : Bool := r.lo < s.lo || (r.lo == s.lo && r.hi ≤ s.hi)

/-- The code points that two ranges share. -/
def inter? (r s : CodeRange) : Option CodeRange :=
  if h : r.overlaps s then
    some { lo := max r.lo s.lo, hi := min r.hi s.hi, lo_le_hi := of_decide_eq_true h }
  else none

end CodeRange

/-- What a set of code points is drawn from: Unicode scalar values, or bytes. -/
inductive Alphabet where
  | unicode
  | bytes
  deriving DecidableEq, Repr, Inhabited

namespace Alphabet

/-- The greatest member. -/
def max : Alphabet → Nat
  | .unicode => 0x10FFFF
  | .bytes => 0xFF

/-- The next member. -/
def succ : Alphabet → Nat → Nat
  | .unicode, 0xD7FF => 0xE000
  | _, n => n + 1

/-- The previous member. -/
def pred : Alphabet → Nat → Nat
  | .unicode, 0xE000 => 0xD7FF
  | _, n => n - 1

end Alphabet

/-- A set of code points, as ranges. -/
abbrev CodeSet := List CodeRange

namespace CodeSet

/-- Merges each range of a sorted list into `current` for as long as they overlap or touch. -/
def mergeInto (current : CodeRange) : List CodeRange → CodeSet
  | [] => [current]
  | r :: rest =>
    if r.lo ≤ current.hi + 1 then
      mergeInto
        { lo := current.lo
          hi := max current.hi r.hi
          lo_le_hi := Nat.le_trans current.lo_le_hi (Nat.le_max_left ..) } rest
    else current :: mergeInto r rest

/-- The same code points as sorted ranges with gaps between them. -/
def normalize (ranges : List CodeRange) : CodeSet :=
  match ranges.mergeSort CodeRange.le with
  | [] => []
  | r :: rest => mergeInto r rest

/-- Whether the set holds the code point `n`. -/
def contains (s : CodeSet) (n : Nat) : Bool := s.any (·.contains n)

/-- Whether every member is below 128. -/
def isAscii (s : CodeSet) : Bool := s.all (·.hi < 128)

/-- The members of either set. -/
def union (s t : CodeSet) : CodeSet := normalize (s ++ t)

/-- The common members of two sets. -/
def inter (s t : CodeSet) : CodeSet := s.flatMap fun r => t.filterMap r.inter?

/-- The parts of a range outside another one. -/
def rangeDiff (alphabet : Alphabet) (r cut : CodeRange) : List CodeRange :=
  if r.overlaps cut then
    (if r.lo < cut.lo then [.between r.lo (alphabet.pred cut.lo)] else []) ++
    (if cut.hi < r.hi then [.between (alphabet.succ cut.hi) r.hi] else [])
  else [r]

/-- The members of `s` that are not in `t`. -/
def diff (alphabet : Alphabet) (s t : CodeSet) : CodeSet :=
  t.foldl (fun left cut => left.flatMap (rangeDiff alphabet · cut)) s

/-- The members of exactly one of two sets. -/
def symmDiff (alphabet : Alphabet) (s t : CodeSet) : CodeSet :=
  diff alphabet (union s t) (inter s t)

/-- The gaps between the ranges of a sorted set that begin at `start`. -/
def gapsFrom (alphabet : Alphabet) (start : CodeRange) : List CodeRange → CodeSet
  | [] => if start.hi < alphabet.max then [.between (alphabet.succ start.hi) alphabet.max] else []
  | r :: rest =>
    CodeRange.between (alphabet.succ start.hi) (alphabet.pred r.lo) :: gapsFrom alphabet r rest

/-- The members of the alphabet that are not in a sorted set. -/
def complement (alphabet : Alphabet) : CodeSet → CodeSet
  | [] => [.between 0 alphabet.max]
  | r :: rest =>
    (if 0 < r.lo then [.between 0 (alphabet.pred r.lo)] else []) ++ gapsFrom alphabet r rest

/-! ### Ranges in text -/

/-- The value of a hexadecimal digit. -/
def hexValue? (c : Char) : Option Nat :=
  if '0' ≤ c ∧ c ≤ '9' then some (c.toNat - 48)
  else if 'A' ≤ c ∧ c ≤ 'F' then some (c.toNat - 55)
  else if 'a' ≤ c ∧ c ≤ 'f' then some (c.toNat - 87)
  else none

/-- A reader of ranges: those read so far, the lower end if a hyphen was seen, and the number that
the digits since then write, if there were any. -/
structure RangeText where
  ranges : Array CodeRange := #[]
  lower : Option Nat := none
  number : Option Nat := none

namespace RangeText

/-- Ends the range being read. -/
def finish (t : RangeText) : RangeText :=
  match t.number with
  | some n => { ranges := t.ranges.push (.between (t.lower.getD n) n) }
  | none => t

/-- Reads one character: a digit, a hyphen, or a space that ends a range. -/
def read (t : RangeText) (c : Char) : RangeText :=
  match hexValue? c with
  | some d => { t with number := some (t.number.getD 0 * 16 + d) }
  | none => if c = '-' then { t with lower := t.number, number := none } else t.finish

end RangeText

/-- Reads ranges of hexadecimal code points separated by spaces. -/
def ofText (text : String) : CodeSet := (text.foldl RangeText.read {}).finish.ranges.toList

end CodeSet

end GramSieve
