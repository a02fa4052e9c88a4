import GramSieve.Unicode.CaseShift

namespace GramSieve.Text

/-!
# Folding characters

* `lowercaseChar` — the first character of a character's lowercase form.
* `greekFold` — the fold for Greek: no accents, one form of sigma.
* `CaseFold`, `CaseFold.fold` — the folds that a search can use.
-/

/-- The first character of the lowercase form of `c`. Only `İ` has a longer form. -/
def lowercaseChar (c : Char) : Char := Char.ofNat (Unicode.simpleLowercase c.toNat)

/-- The last code point that a lowercase form can change: the end of the Adlam block. -/
def lastCasedCodePoint : Nat := 0x1E95F

/-- Lowercase without accents, with the medial form of sigma. -/
def greekFold (c : Char) : Char :=
  match c with
  | 'Σ' | 'ς' | 'ϲ' | 'Ϲ' => 'σ'
  | 'Ά' | 'ά' => 'α'
  | 'Έ' | 'έ' => 'ε'
  | 'Ή' | 'ή' => 'η'
  | 'Ί' | 'ί' | 'Ϊ' | 'ϊ' | 'ΐ' => 'ι'
  | 'Ό' | 'ό' => 'ο'
  | 'Ύ' | 'ύ' | 'Ϋ' | 'ϋ' | 'ΰ' => 'υ'
  | 'Ώ' | 'ώ' => 'ω'
  | _ => lowercaseChar c

/-- Lowercase with the dotted and the dotless i of Turkish. -/
def turkishFold (c : Char) : Char :=
  match c with
  | 'I' => 'ı'
  | 'İ' => 'i'
  | _ => lowercaseChar c

/-- How a single character is folded. -/
inductive CaseFold where
  | lowercase
  | greek
  | turkish
  deriving DecidableEq, Repr, Inhabited

namespace CaseFold

/-- The folded form of `c`. -/
def fold : CaseFold → Char → Char
  | .lowercase => lowercaseChar
  | .greek => greekFold
  | .turkish => turkishFold

/-- The name of a fold. -/
def name : CaseFold → String
  | .lowercase => "Lowercase"
  | .greek => "Greek"
  | .turkish => "Turkish"

end CaseFold

end GramSieve.Text
