import GramSieve.Unicode.Category
import GramSieve.Unicode.Property
import GramSieve.Unicode.Recent

namespace GramSieve.Unicode

/-!
# Classes of single characters

* `isWhiteSpace`, `isAlphabetic`, `isAlphanumeric` — the properties that readers of text ask for.
* `digitSet`, `spaceSet`, `wordSet` — the characters of `\d`, `\s` and `\w`.
* `isPrintable`, `isGraphemeExtend` — what a quoted text shows as it is.

The sets serve patterns and know Unicode 16.0; the tests serve text and know Unicode 17.0.
-/

/-- Whether `c` has the property White_Space. -/
def isWhiteSpace (c : Char) : Bool :=
  let n := c.toNat
  (9 ≤ n && n ≤ 13) || n == 0x20 || n == 0x85 || n == 0xA0 || n == 0x1680 ||
  (0x2000 ≤ n && n ≤ 0x200A) || n == 0x2028 || n == 0x2029 || n == 0x202F || n == 0x205F ||
  n == 0x3000

/-- A table of ranges for fast membership tests. -/
def tableContains (table : Array CodeRange) (n : Nat) : Bool :=
  let rec search (fuel lo hi : Nat) : Bool :=
    match fuel with
    | 0 => false
    | fuel + 1 =>
      if lo < hi then
        let mid := (lo + hi) / 2
        match table[mid]? with
        | none => false
        | some r =>
          if n < r.lo then search fuel lo mid
          else if r.hi < n then search fuel (mid + 1) hi
          else true
      else false
  search (table.size + 1) 0 table.size

/-- The characters of a named property, or none. -/
def propertySet (name : String) : CodeSet := (property? name).getD []

/-- The characters of a general category, or none. -/
def categorySet (name : String) : CodeSet := (category? name).getD []

/-- The characters of `\d`. -/
def digitSet : CodeSet := categorySet "Decimal_Number"

/-- The characters of `\s`. -/
def spaceSet : CodeSet := propertySet "White_Space"

/-- The characters of `\w`. -/
def wordSet : CodeSet :=
  CodeSet.normalize (propertySet "Alphabetic" ++ propertySet "Join_Control" ++ categorySet "Mark" ++
    categorySet "Decimal_Number" ++ categorySet "Connector_Punctuation")

/-- The alphabetic characters. -/
def alphabeticTable : Array CodeRange :=
  (CodeSet.union (propertySet "Alphabetic") recentAlphabetic).toArray

/-- The alphabetic characters and those of the number categories. -/
def alphanumericTable : Array CodeRange :=
  (CodeSet.normalize (propertySet "Alphabetic" ++ recentAlphabetic ++ categorySet "Number" ++
    recentNumbers)).toArray

/-- Whether `c` has the property Alphabetic. -/
def isAlphabetic (c : Char) : Bool :=
  if c.toNat < 128 then c.isAlpha else tableContains alphabeticTable c.toNat

/-- Whether `c` is alphabetic or a number. -/
def isAlphanumeric (c : Char) : Bool :=
  if c.toNat < 128 then c.isAlphanum else tableContains alphanumericTable c.toNat

/-- The characters that show nothing by themselves: controls, formats, separators other than the
space, private and unassigned ones. -/
def unprintableTable : Array CodeRange :=
  (CodeSet.diff .unicode (CodeSet.union (categorySet "Other") (categorySet "Separator"))
    (CodeRange.single 0x20 :: recentCharacters)).toArray

/-- Whether `c` shows as something, the space included. -/
def isPrintable (c : Char) : Bool :=
  if c.toNat < 128 then 32 ≤ c.toNat && c.toNat < 127 else !tableContains unprintableTable c.toNat

/-- The characters that extend the one before them. -/
def graphemeExtendTable : Array CodeRange :=
  (CodeSet.union (propertySet "Grapheme_Extend") recentGraphemeExtend).toArray

/-- Whether `c` extends the character before it. -/
def isGraphemeExtend (c : Char) : Bool :=
  0x300 ≤ c.toNat && tableContains graphemeExtendTable c.toNat

end GramSieve.Unicode
