import GramSieve.Pattern.Fault
import GramSieve.Regex.Basic

namespace GramSieve

/-!
# What can go wrong in a search

* `LoadFault` — why the values of a field could not be loaded.
* `Downgrade` — the step of planning that gave up on n-grams.
* `SearchError` — why a search could not be planned or finished, with its wording.
-/

/-- Why a file or a stored value could not be read. -/
inductive LoadFault where
  | notFound
  | notADirectory
  /-- There is a directory instead of a file. -/
  | notAFile
  | linkLoop
  /-- A name that is too long. -/
  | invalidFilename
  /-- A path that no file can have. -/
  | invalidInput
  /-- The file is not text; the reason is given in full. -/
  | invalidData (message : String)
  deriving DecidableEq, Repr, Inhabited

/-- The name of the kind of fault. -/
def LoadFault.kind : LoadFault → String
  | .notFound => "NotFound"
  | .notADirectory => "NotADirectory"
  | .notAFile => "Uncategorized"
  | .linkLoop => "FilesystemLoop"
  | .invalidFilename => "InvalidFilename"
  | .invalidInput => "InvalidInput"
  | .invalidData _ => "InvalidData"

/-- The step of planning that gave up on n-grams. -/
inductive Downgrade where
  | noGramField
  | noRequiredGrams
  | overClauseBudget (clauses maxClauses : Nat)
  deriving DecidableEq, Repr, Inhabited

/-- The wording of a downgrade. -/
def Downgrade.message : Downgrade → String
  | .noGramField => "no n-gram field configured"
  | .noRequiredGrams => "no n-grams are required by every match"
  | .overClauseBudget clauses maxClauses =>
    s!"{clauses} clauses exceed the maximum of {maxClauses} even as a disjunction"

/-- Why a search could not be planned or finished. -/
inductive SearchError where
  | emptyRegex
  | invalidRegex (regex : String) (fault : Pattern.Fault)
  | unsupportedAssertion (regex : String) (look : Look)
  | invalidSetting (name message : String)
  | unknownGramField (field : String)
  | unableToAccelerate (regex field : String) (gramSize : Nat) (reason : Downgrade)
  | tooComplexToTrace (regex : String) (limit : Nat)
  | tooComplexToDeterminize (regex : String) (limit : Nat)
  | fieldLoad (field : String) (document : Nat) (source : LoadFault)
  deriving DecidableEq, Repr, Inhabited

/-- The wording of an error. -/
def SearchError.message : SearchError → String
  | .emptyRegex => "regex must be non-empty"
  | .invalidRegex regex fault => "invalid regex `" ++ regex ++ "`: " ++ fault.render regex
  | .unsupportedAssertion regex look =>
    "regex `" ++ regex ++ "` uses an unsupported assertion (" ++ look.name ++
      "); anchors and word boundaries are not supported"
  | .invalidSetting name message => "invalid setting `" ++ name ++ "`: " ++ message
  | .unknownGramField field => "unknown n-gram field `" ++ field ++ "`"
  | .unableToAccelerate regex field gramSize reason =>
    "unable to accelerate regex `" ++ regex ++ "` with n-gram field `" ++ field ++
      s!"` and gram size {gramSize}: " ++ reason.message
  | .tooComplexToTrace regex limit =>
    "regex `" ++ regex ++ s!"` is too complex for the current max_states_traced of {limit}; " ++
      "raise the limit or simplify the regex"
  | .tooComplexToDeterminize regex limit =>
    "regex `" ++ regex ++
      s!"` is too complex to determinize within max_determinized_states of {limit}"
  | .fieldLoad field document _ =>
    "failed to load field `" ++ field ++ s!"` for document {document}"

end GramSieve
