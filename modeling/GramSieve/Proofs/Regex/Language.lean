import GramSieve.Regex.Basic
import GramSieve.Text.Utf8
import Mathlib.Computability.Language

namespace GramSieve

/-!
# The languages of regular expressions

* `Regex.language` — the texts that an expression matches as a whole.
* `Regex.WellBounded` — no repetition asks for more than it allows.
* `Regex.Populated` — every range of every class holds a character.
-/

open Text

/-- The texts of one character that is in a set. -/
def CodeSet.language (set : CodeSet) : Language Char := {w | ∃ c : Char, set.contains c.toNat ∧ w = [c]}

/-- The range of a character matches that character. -/
theorem CodeSet.language_single (c : Char) : CodeSet.language [CodeRange.single c.toNat] = {[c]} := by
  ext w
  constructor
  · rintro ⟨d, hd, rfl⟩
    have : d.toNat = c.toNat := by
      simp [CodeSet.contains, CodeRange.contains, CodeRange.single] at hd
      omega
    rw [Char.toNat_inj.mp this]
    rfl
  · rintro rfl
    exact ⟨c, by simp [CodeSet.contains, CodeRange.contains, CodeRange.single], rfl⟩

/-- From `min` to `max` texts of a language, one behind the other. -/
def powers (min : Nat) (max : Option Nat) (l : Language Char) : Language Char :=
  {w | ∃ k, min ≤ k ∧ (∀ m, max = some m → k ≤ m) ∧ w ∈ l ^ k}

namespace Regex

mutual

/-- The texts that an expression matches. Assertions match the empty text everywhere, and bytes that
are no text match the replacement character. -/
def language : Regex → Language Char
  | .empty | .look _ => 1
  | .literal bytes => {Utf8.decodeLossy bytes}
  | .oneOf _ set => set.language
  | .repetition min max _ r => powers min max r.language
  | .capture _ _ r => r.language
  | .concat rs => sequenceLanguage rs
  | .alternation rs => branchLanguage rs

/-- The texts that expressions in sequence match. -/
def sequenceLanguage : List Regex → Language Char
  | [] => 1
  | r :: rs => r.language * sequenceLanguage rs

/-- The texts that one of some expressions matches. -/
def branchLanguage : List Regex → Language Char
  | [] => 0
  | r :: rs => r.language + branchLanguage rs

end

mutual

/-- No repetition asks for more than it allows. -/
def WellBounded : Regex → Prop
  | .repetition min max _ r => (∀ m, max = some m → min ≤ m) ∧ r.WellBounded
  | .capture _ _ r => r.WellBounded
  | .concat rs => AllWellBounded rs
  | .alternation rs => AllWellBounded rs
  | _ => True

/-- No repetition in a list of expressions asks for more than it allows. -/
def AllWellBounded : List Regex → Prop
  | [] => True
  | r :: rs => r.WellBounded ∧ AllWellBounded rs

end

mutual

/-- Every range of every class holds a character. -/
def Populated : Regex → Prop
  | .oneOf _ set => ∀ r ∈ set, ∃ c : Char, r.contains c.toNat
  | .repetition _ _ _ r => r.Populated
  | .capture _ _ r => r.Populated
  | .concat rs => AllPopulated rs
  | .alternation rs => AllPopulated rs
  | _ => True

/-- Every range of every class in a list of expressions holds a character. -/
def AllPopulated : List Regex → Prop
  | [] => True
  | r :: rs => r.Populated ∧ AllPopulated rs

end

end Regex

end GramSieve
