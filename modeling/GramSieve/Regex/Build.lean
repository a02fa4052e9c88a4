import GramSieve.Regex.Basic
import GramSieve.Text.Utf8

namespace GramSieve.Regex

/-!
# Building regular expressions in normal form

Each function builds an expression of one kind from expressions in normal form, and simplifies what
can be seen at the root.

* `mkLiteral`, `mkClass`, `mkRepetition`, `mkConcat`, `mkAlternation` — one function for each kind.
* `dot` — the expression for any character.
* `unanchored` — the expression with any text before and behind it.
-/

open Text

/-- The literal with the given bytes. -/
def mkLiteral (bytes : List UInt8) : Regex := if bytes.isEmpty then .empty else .literal bytes

/-- The literal of a text. -/
def ofText (cs : List Char) : Regex := mkLiteral (Utf8.encode cs)

/-- The bytes of the code point `n`. -/
def codeBytes (alphabet : Alphabet) (n : Nat) : List UInt8 :=
  match alphabet with
  | .unicode => String.utf8EncodeChar (Char.ofNat n)
  | .bytes => [n.toUInt8]

/-- The members of a sorted set. A set of one member is a literal. -/
def mkClass (alphabet : Alphabet) (set : CodeSet) : Regex :=
  match set with
  | [] => never
  | [r] => if r.lo = r.hi then mkLiteral (codeBytes alphabet r.lo) else .oneOf alphabet set
  | _ => .oneOf alphabet set

/-- Repetitions of `sub`. One that can only match the empty text is tried at most once. -/
def mkRepetition (min : Nat) (max : Option Nat) (greedy : Bool) (sub : Regex) : Regex :=
  let (min, max) := if sub.isZeroWidth then (Nat.min min 1, some ((max.map (Nat.min · 1)).getD 1))
    else (min, max)
  match min, max with
  | 0, some 0 => .empty
  | 1, some 1 => sub
  | _, _ => .repetition min max greedy sub

/-- The capture of `sub`. -/
def mkCapture (index : Nat) (name : Option String) (sub : Regex) : Regex := .capture index name sub

/-! ### Sequences -/

/-- The parts of an expression in a sequence. -/
def parts : Regex → List Regex
  | .concat rs => rs
  | .empty => []
  | r => [r]

/-- Puts an expression in front of others; a literal joins the one behind it. -/
def consJoined : Regex → List Regex → List Regex
  | .literal bytes, .literal more :: rs => .literal (bytes ++ more) :: rs
  | r, rs => r :: rs

/-- Joins literals that stand side by side. -/
def joinLiterals (rs : List Regex) : List Regex := rs.foldr consJoined []

/-- A sequence of expressions. -/
def mkConcat (rs : List Regex) : Regex :=
  match joinLiterals (rs.flatMap parts) with
  | [] => .empty
  | [r] => r
  | rs => .concat rs

/-! ### Choices -/

/-- The branches of an expression in a choice. -/
def branches : Regex → List Regex
  | .alternation rs => rs
  | r => [r]

/-- The code point of a literal of one character. -/
def singleChar? : Regex → Option Nat
  | .literal bytes =>
    match Utf8.decode bytes with
    | .ok [c] => some c.toNat
    | _ => none
  | _ => none

/-- The byte of a literal of one byte. -/
def singleByte? : Regex → Option Nat
  | .literal [b] => some b.toNat
  | _ => none

/-- The set of a class whose members are, or can be taken as, of the given alphabet. -/
def classOver? (alphabet : Alphabet) : Regex → Option CodeSet
  | .oneOf a set => if a = alphabet || set.isAscii then some set else none
  | _ => none

/-- The branches of a choice as one class, where they are all characters, all bytes, or all
classes over one alphabet. -/
def asClass? (rs : List Regex) : Option Regex :=
  let points (alphabet : Alphabet) (ns : List Nat) : Regex :=
    mkClass alphabet (CodeSet.normalize (ns.map CodeRange.single))
  let union (alphabet : Alphabet) (sets : List CodeSet) : Regex :=
    mkClass alphabet (CodeSet.normalize sets.flatten)
  ((rs.mapM singleChar?).map (points .unicode)).or <|
    ((rs.mapM singleByte?).map (points .bytes)).or <|
      ((rs.mapM (classOver? .unicode)).map (union .unicode)).or <|
        (rs.mapM (classOver? .bytes)).map (union .bytes)

/-- The longest common start of two lists. -/
def commonStart : List Regex → List Regex → List Regex
  | r :: rs, r' :: rs' => if r == r' then r :: commonStart rs rs' else []
  | _, _ => []

/-- The parts that every branch starts with, if all are sequences. -/
def commonParts? (rs : List Regex) : Option (List Regex) := do
  let sequences ← rs.mapM fun
    | .concat parts => some parts
    | _ => none
  match sequences with
  | [] => none
  | first :: others => return others.foldl commonStart first

/-- A choice. What all branches start with is taken out, and the rest is a choice again; it is
smaller, so the size of the branches bounds how often this happens. -/
def mkAlternationWith : Nat → List Regex → Regex
  | 0, rs => .alternation rs
  | fuel + 1, rs =>
    match rs.flatMap branches with
    | [] => never
    | [r] => r
    | rs =>
      match asClass? rs with
      | some r => r
      | none =>
        match commonParts? rs with
        | none => .alternation rs
        | some [] => .alternation rs
        | some common =>
          let rest := rs.map fun r => mkConcat ((parts r).drop common.length)
          mkConcat (common ++ [mkAlternationWith fuel rest])

/-- A choice between expressions. -/
def mkAlternation (rs : List Regex) : Regex := mkAlternationWith (sizeList rs + 1) rs

/-! ### Any character -/

/-- Any character, line ends included. -/
def anyChar : Regex := .oneOf .unicode [.between 0 0x10FFFF]

/-- The expression with any text before and behind it. -/
def unanchored (r : Regex) : Regex :=
  let any := mkRepetition 0 none true anyChar
  mkConcat [any, r, any]

/-- The text that an expression matches, if it is a sequence of literals. -/
def literalText? : Regex → Option (List Char)
  | .empty => some []
  | .literal bytes => (Utf8.decode bytes).toOption
  | .capture _ _ r => r.literalText?
  | .concat rs => literalTexts? rs
  | _ => none
where
  /-- The texts of a list of expressions, joined. -/
  literalTexts? : List Regex → Option (List Char)
    | [] => some []
    | r :: rs => do return (← r.literalText?) ++ (← literalTexts? rs)

end GramSieve.Regex
