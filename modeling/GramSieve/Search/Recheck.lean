import GramSieve.Automaton.Dfa
import GramSieve.Regex.Compile
import GramSieve.Search.Settings

namespace GramSieve

/-!
# Checking the values of a document

* `RecheckStrategy` — how the letters of a value are folded and where matches are looked for.
* `Automaton.Dfa.containsMatch` — looks for an accepted text inside a value.
* `Rechecker` — decides whether a value contains a match.
-/

open Automaton Text

/-- How a value is folded and searched. -/
inductive RecheckStrategy where
  /-- Nothing is folded. -/
  | caseSensitive
  /-- Every character is lowercased as it is read. -/
  | lowercaseOnTheFly
  /-- Every character is folded by the rules of Greek as it is read. -/
  | greekOnTheFly
  /-- The whole value is lowercased by the rules of its language first. -/
  | prefolded
  /-- The value, lowercased unless case matters, as a whole is text around a match. -/
  | baseline
  deriving DecidableEq, Repr, Inhabited

namespace RecheckStrategy

/-- All strategies. -/
def all : List RecheckStrategy :=
  [caseSensitive, lowercaseOnTheFly, greekOnTheFly, prefolded, baseline]

/-- The name of a strategy. -/
def name : RecheckStrategy → String
  | caseSensitive => "CaseSensitive"
  | lowercaseOnTheFly => "LowercaseOnTheFly"
  | greekOnTheFly => "GreekOnTheFly"
  | prefolded => "Prefolded"
  | baseline => "Baseline"

/-- The fastest strategy that is right for a language. -/
def select (isCaseSensitive : Bool) (locale : Text.Locale) : RecheckStrategy :=
  if isCaseSensitive then caseSensitive
  else if locale.needsPrefolding then prefolded
  else if locale = .greek then greekOnTheFly
  else lowercaseOnTheFly

end RecheckStrategy

namespace Automaton.Dfa

/-- Whether a start of the folded text leads from a state to an accepting one, reading at least one
character. -/
def acceptsStart (dfa : Dfa) (fold : Char → Char) (state : Nat) : List Char → Bool
  | [] => false
  | c :: cs =>
    match dfa.step? state (fold c) with
    | none => false
    | some next => dfa.isAccept next || dfa.acceptsStart fold next cs

/-- Whether some text inside the folded text is accepted. Every place is tried as its start. -/
def containsMatch (dfa : Dfa) (fold : Char → Char) (text : List Char) : Bool :=
  dfa.isAccept start || go text
where
  /-- Whether an accepted text of at least one character starts somewhere. -/
  go : List Char → Bool
    | [] => false
    | c :: cs => dfa.acceptsStart fold start (c :: cs) || go cs

end Automaton.Dfa

/-- Decides whether values contain a match. The automaton is made when it is needed first. -/
structure Rechecker where
  strategy : RecheckStrategy
  locale : Text.Locale
  isCaseSensitive : Bool
  automaton : Thunk (Except SearchError Dfa)

namespace Rechecker

/-- The fold of the pattern that goes with a strategy. -/
def patternFold (strategy : RecheckStrategy) (s : Settings) : Option CaseFold :=
  match strategy with
  | .caseSensitive => none
  | .lowercaseOnTheFly => some .lowercase
  | .greekOnTheFly => some .greek
  | .prefolded => some s.locale.charFold
  | .baseline => s.fold

/-- The automaton of a pattern for a strategy. -/
def compile (regex : String) (s : Settings) (strategy : RecheckStrategy) :
    Except SearchError Dfa := do
  let r ← Regex.compile regex (patternFold strategy s)
  let r := if strategy = .baseline then r.unanchored else r
  (Dfa.ofRegex r s.maxDeterminizedStates).mapError fun _ =>
    .tooComplexToDeterminize regex s.maxDeterminizedStates

/-- The rechecker that uses a given strategy. -/
def withStrategy (regex : String) (s : Settings) (strategy : RecheckStrategy) : Rechecker where
  strategy
  locale := s.locale
  isCaseSensitive := s.caseSensitive
  automaton := Thunk.mk fun _ => compile regex s strategy

/-- The rechecker of a pattern, with the fastest strategy for the settings. -/
def ofSettings (regex : String) (s : Settings) : Rechecker :=
  withStrategy regex s (.select s.caseSensitive s.locale)

/-- Whether a value contains a match. -/
def matchesValue (r : Rechecker) (dfa : Dfa) (value : String) : Bool :=
  let lowercase := r.locale.lowercaseChars value.toList
  match r.strategy with
  | .caseSensitive => dfa.containsMatch id value.toList
  | .lowercaseOnTheFly => dfa.containsMatch lowercaseChar value.toList
  | .greekOnTheFly => dfa.containsMatch greekFold value.toList
  | .prefolded => dfa.containsMatch id lowercase
  | .baseline => dfa.accepts (if r.isCaseSensitive then value.toList else lowercase)

/-- Whether some value contains a match. -/
def recheck (r : Rechecker) (values : List String) : Except SearchError Bool := do
  let dfa ← r.automaton.get
  return values.any (r.matchesValue dfa)

/-- What a recheck costs compared to others: it grows with the automaton. -/
def cost (r : Rechecker) : Except SearchError Nat := do
  return 4 * (← r.automaton.get).size

end Rechecker

end GramSieve
