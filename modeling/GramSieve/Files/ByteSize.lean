namespace GramSieve.Files

/-!
# Sizes for people

`byteSize` shows a number of bytes in the largest unit that it fills, with two places. The number is
first rounded to 53 significant bits, and the places are rounded from there; a half goes to the even
neighbour both times.
-/

/-- The quotient rounded to the nearest whole number, a half to the even one. -/
def roundDiv (num den : Nat) : Nat :=
  let q := num / den
  let twice := 2 * (num % den)
  if twice < den || (twice == den && q % 2 == 0) then q else q + 1

/-- The number rounded to 53 significant bits. -/
def roundTo53Bits (n : Nat) : Nat :=
  let unit := 1 <<< (n.log2 - 52)
  roundDiv n unit * unit

/-- A quotient with two places. -/
def twoPlaces (num den : Nat) : String :=
  let hundredths := roundDiv (num * 100) den
  let places := hundredths % 100
  s!"{hundredths / 100}." ++ (if places < 10 then "0" else "") ++ toString places

/-- The number of bytes in a kilobyte. -/
def kilobyte : Nat := 1024

/-- The number of bytes in a megabyte. -/
def megabyte : Nat := 1024 * kilobyte

/-- The number of bytes in a gigabyte. -/
def gigabyte : Nat := 1024 * megabyte

/-- The number of bytes in the largest unit that it fills. -/
def byteSize (n : Nat) : String :=
  if gigabyte ≤ n then twoPlaces (roundTo53Bits n) gigabyte ++ " GB"
  else if megabyte ≤ n then twoPlaces n megabyte ++ " MB"
  else if kilobyte ≤ n then twoPlaces n kilobyte ++ " KB"
  else s!"{n} bytes"

end GramSieve.Files
