namespace GramSieve.CommandLine

/-!
# Options of the command line

* `Choice`, `Switch.all` — what can be chosen, with the names and the purpose of every option.
* `Switch.named?`, `Switch.lettered?` — the option of a name or a letter.
* `helpText`, `versionText` — what the program says about itself.
-/

/-- What an option is for. -/
inductive Choice where
  | config
  | init
  | caseSensitive
  | locale
  | fixedStrings
  | timeout
  | noAccelerate
  | rejectUnaccelerated
  | explain
  | json
  | verbose
  | help
  | version
  deriving DecidableEq, Repr, Inhabited

/-- An option of the command line. -/
structure Switch where
  choice : Choice
  /-- The name behind two dashes. -/
  name : String
  /-- The letter behind one dash. -/
  letter : Option Char := none
  /-- What the value stands for, if the option takes one. -/
  value : Option String := none
  purpose : String
  deriving DecidableEq, Repr, Inhabited

namespace Switch

/-- All options, in the order of the help. -/
def all : List Switch := [
  { choice := .config, name := "config", letter := 'c', value := "FILE"
    purpose := "Path to configuration file" },
  { choice := .init, name := "init", value := "FILE"
    purpose := "Generate a template configuration file and exit" },
  { choice := .caseSensitive, name := "case-sensitive", letter := 's'
    purpose := "Match case exactly" },
  { choice := .locale, name := "locale", value := "TAG"
    purpose := "Language whose lowercasing rules apply (e.g. tr, el, ga)" },
  { choice := .fixedStrings, name := "fixed-strings", letter := 'F'
    purpose := "Treat the pattern as a literal string" },
  { choice := .timeout, name := "timeout-ms", value := "MS"
    purpose := "Stop rechecking after this many milliseconds and print partial results" },
  { choice := .noAccelerate, name := "no-accelerate"
    purpose := "Do not build the n-gram index; scan every file" },
  { choice := .rejectUnaccelerated, name := "reject-unaccelerated"
    purpose := "Fail if the pattern cannot be accelerated" },
  { choice := .explain, name := "explain", purpose := "Print the query plan" },
  { choice := .json, name := "json", purpose := "Print results as JSON" },
  { choice := .verbose, name := "verbose", letter := 'v', purpose := "Enable verbose logging" },
  { choice := .help, name := "help", letter := 'h', purpose := "Print help" },
  { choice := .version, name := "version", letter := 'V', purpose := "Print version" }]

/-- The option of a name. -/
def named? (name : String) : Option Switch := all.find? fun s => s.name == name

/-- The option of a letter. -/
def lettered? (letter : Char) : Option Switch := all.find? fun s => s.letter == some letter

/-- The name of an option and of its value, as the help shows them. -/
def spelling (s : Switch) : String :=
  "--" ++ s.name ++ (match s.value with | some value => " <" ++ value ++ ">" | none => "")

/-- The letter of an option, as the help shows it, or as many blanks. -/
def lead (s : Switch) : String :=
  match s.letter with
  | some letter => "-" ++ String.singleton letter ++ ", "
  | none => "    "

end Switch

/-! ### Help -/

/-- The name and the version of the program. -/
def versionText : String := "ngram_regex 0.1.0\n"

/-- What is given without an option, with its purpose. -/
def operands : List (String × String) := [
  ("[PATTERN]", "Regex to search for"),
  ("[PATHS]...", "Files or directories to search (default: current directory)")]

/-- A column of words and one of texts beside it. -/
def twoColumns (rows : List (String × String)) : String :=
  let width := (rows.map (·.1.length)).foldl max 0
  String.join (rows.map fun (word, text) =>
    "  " ++ String.ofList (word.toList.rightpad width ' ') ++ "  " ++ text ++ "\n")

/-- The help of the program. -/
def helpText : String :=
  "Regex search accelerated by n-gram index pre-filtering, with exact locale-aware automaton " ++
    "rechecking\n\nUsage: ngram_regex [OPTIONS] [PATTERN] [PATHS]...\n\n" ++
    "Arguments:\n" ++ twoColumns operands ++
    "\nOptions:\n" ++ twoColumns (Switch.all.map fun s => (s.lead ++ s.spelling, s.purpose))

end GramSieve.CommandLine
