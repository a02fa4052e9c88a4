import GramSieve.Config.Value
import GramSieve.Search.Settings

namespace GramSieve.Config

/-!
# The settings of a search in a configuration

* `readSettings` — the settings that a record gives.
* `readExactSettings` — the same for a record that must not have items left over.
-/

/-- The settings that a record gives. -/
def readSettings (v : Value) : Option Settings := do
  let d : Settings := {}
  guard v.isRecord
  return {
    gramSize := ← v.read 0 "gram_size" Value.nat? d.gramSize
    maxExpand := ← v.read 1 "max_expand" Value.nat? d.maxExpand
    maxStatesTraced := ← v.read 2 "max_states_traced" Value.nat? d.maxStatesTraced
    maxDeterminizedStates :=
      ← v.read 3 "max_determinized_states" Value.nat? d.maxDeterminizedStates
    maxGramsExtracted := ← v.read 4 "max_ngrams_extracted" Value.nat? d.maxGramsExtracted
    maxGramClauses := ← v.read 5 "max_ngram_clauses" Value.nat? d.maxGramClauses
    caseSensitive := ← v.read 6 "case_sensitive" Value.bool? d.caseSensitive
    locale := ← v.read 7 "locale" (fun v => v.text?.map Text.Locale.ofTag) d.locale
    rejectUnaccelerated := ← v.read 8 "reject_unaccelerated" Value.bool? d.rejectUnaccelerated
    timeoutMs := ← v.read 9 "timeout_ms" Value.nat? d.timeoutMs }

/-- The settings that a record gives which has no items left over. -/
def readExactSettings (v : Value) : Option Settings :=
  if v.fits 10 then readSettings v else none

end GramSieve.Config
