import GramSieve.Text.Locale

namespace GramSieve.Gram

/-!
# Analyzers

The same analyzer must make the terms of an index and of a query, so that both agree.

* `windows`, `extractGrams` — the grams of a text: its windows of a fixed number of characters.
* `Analyzer` — anything that splits a text into terms.
* `GramAnalyzer` — the grams of a text, or of its lowercase form.
-/

open Text

/-- The windows of `size` characters of a text, for a `size` above zero. -/
def windows (size : Nat) : List Char → List (List Char)
  | [] => []
  | c :: rest =>
    let window := (c :: rest).take size
    if window.length < size then [] else window :: windows size rest

/-- The grams of a text. There are none of zero characters. -/
def extractGrams (size : Nat) (text : String) : List String :=
  if size = 0 then [] else (windows size text.toList).map String.ofList

/-- Splits a text into terms. -/
abbrev Analyzer := String → List String

/-- The analyzer that makes grams of `gramSize` characters, in lowercase if a locale is given. -/
structure GramAnalyzer where
  gramSize : Nat
  lowercase : Option Text.Locale := none
  deriving DecidableEq, Repr, Inhabited

namespace GramAnalyzer

/-- The terms of a text. -/
def analyze (a : GramAnalyzer) : Analyzer := fun text =>
  match a.lowercase with
  | some locale => extractGrams a.gramSize (locale.lowercase text)
  | none => extractGrams a.gramSize text

end GramAnalyzer

end GramSieve.Gram
