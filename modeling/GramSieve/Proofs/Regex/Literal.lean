import GramSieve.Proofs.Regex.Language
import GramSieve.Proofs.Text.Utf8
import GramSieve.Regex.Build

/-!
# Expressions that are a single text

* `language_of_literalText?` — an expression that is a text matches that text only.
-/

namespace GramSieve.Regex

open Text

mutual

/-- An expression that is a literal matches its text and no other. -/
theorem language_of_literalText? {r : Regex} {text : List Char} (h : r.literalText? = some text) :
    r.language = {text} := by
  cases r with
  | empty =>
    rw [literalText?] at h
    cases h
    exact language.eq_1
  | literal bytes =>
    rw [literalText?] at h
    -- A literal is only asked for its text if its bytes are one.
    cases hdecode : Utf8.decode bytes with
    | error fault =>
      rw [hdecode] at h
      cases h
    | ok t =>
      rw [hdecode] at h
      cases h
      rw [language, Utf8.decodeLossy_of_decode hdecode]
  | capture index name r =>
    rw [literalText?] at h
    rw [language]
    exact language_of_literalText? h
  | concat rs =>
    rw [literalText?] at h
    rw [language]
    exact sequenceLanguage_of_literalTexts? h
  | oneOf | look | repetition | alternation => cases h

/-- A sequence of literals matches their texts one behind the other. -/
theorem sequenceLanguage_of_literalTexts? {rs : List Regex} {text : List Char}
    (h : literalText?.literalTexts? rs = some text) : sequenceLanguage rs = {text} := by
  cases rs with
  | nil =>
    rw [literalText?.literalTexts?] at h
    cases h
    exact sequenceLanguage.eq_1
  | cons r rs =>
    rw [literalText?.literalTexts?] at h
    obtain ⟨first, hfirst, h⟩ := Option.bind_eq_some_iff.mp h
    obtain ⟨rest, hrest, h⟩ := Option.bind_eq_some_iff.mp h
    cases h
    rw [sequenceLanguage, language_of_literalText? hfirst, sequenceLanguage_of_literalTexts? hrest]
    exact Set.image2_singleton

end

end GramSieve.Regex
