import GramSieve.Error
import GramSieve.Gram.Graph

namespace GramSieve

/-!
# Settings of a search

* `Settings` — what a search may cost and how it compares letters.
* `Settings.validate` — refuses settings that no search can run with.
* `Settings.fold`, `Settings.bounds` — what the settings mean for patterns and for grams.
-/

/-- The settings of one search. -/
structure Settings where
  /-- The length of the grams of the index field. -/
  gramSize : Nat := 3
  /-- The widest range of characters that is told apart. -/
  maxExpand : Nat := 4
  /-- How many places of the automaton are traced; with none only literals are accelerated. -/
  maxStatesTraced : Nat := 10000
  maxDeterminizedStates : Nat := 20000
  maxGramsExtracted : Nat := 100
  /-- How many clauses a query may have. -/
  maxGramClauses : Nat := 1024
  caseSensitive : Bool := false
  /-- The language whose rules for lowercase apply unless case matters. -/
  locale : Text.Locale := .root
  /-- Fail instead of looking at every document when acceleration is impossible. -/
  rejectUnaccelerated : Bool := false
  /-- How many milliseconds the search may take, without a limit if 0. -/
  timeoutMs : Nat := 0
  deriving DecidableEq, Repr, Inhabited

namespace Settings

/-- Refuses settings that no search can run with. -/
def validate (s : Settings) : Except SearchError Unit :=
  if s.gramSize = 0 then .error (.invalidSetting "gram_size" "must be at least 1")
  else if s.maxDeterminizedStates = 0 then
    .error (.invalidSetting "max_determinized_states" "must be at least 1")
  else .ok ()

/-- How the letters of a pattern are folded. -/
def fold (s : Settings) : Option Text.CaseFold :=
  if s.caseSensitive then none else some s.locale.charFold

/-- How far an automaton is unfolded. -/
def bounds (s : Settings) : Gram.Bounds where
  gramSize := s.gramSize
  maxExpand := s.maxExpand
  maxStatesTraced := s.maxStatesTraced
  maxGrams := s.maxGramsExtracted

end Settings

end GramSieve
