import GramSieve.Error
import GramSieve.Pattern.Folding
import GramSieve.Pattern.Reader
import GramSieve.Regex.Resolve

namespace GramSieve.Regex

/-!
# Regular expressions of text

`compile` reads a pattern, folds it and resolves it. Matches are searched for inside a text, where
assertions about the place of a match have no meaning, so these are refused.
-/

open Pattern Text

/-- The regular expression that `text` writes, folded by `fold`. -/
def compile (text : String) (fold : Option CaseFold) : Except SearchError Regex := do
  let invalid {α : Type} (reading : Reading α) : Except SearchError α :=
    reading.mapError (SearchError.invalidRegex text)
  let tree ← invalid (parse text)
  let tree := match fold with
    | some fold => tree.fold fold
    | none => tree
  let regex ← invalid (resolve tree)
  match regex.firstLook? with
  | some assertion => .error (.unsupportedAssertion text assertion)
  | none => return regex

end GramSieve.Regex
