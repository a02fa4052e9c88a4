import GramSieve.CommandLine.Invocation
import GramSieve.Config.File
import GramSieve.Files.Discovery
import GramSieve.Pattern.Escape
import GramSieve.Text.Json

namespace GramSieve.CommandLine

/-!
# Running the program

* `RunFault` — why a run fails, with its wording.
* `SearchRequest.configure`, `SearchRequest.prepare` — the configuration, the index and the plan of
  a search.
* `Report` — what a search has found, as lines or as JSON.
* `run` — the outcome of a command line: what is printed, the exit code, and the files after it.
-/

open Files Text

/-- Why a run fails. -/
inductive RunFault where
  | configExists (path : String)
  | configMissing (path : String)
  | config (fault : ConfigFault)
  | exclude (fault : InvalidExclude)
  | unreadable (path : String)
  | search (error : SearchError)
  deriving DecidableEq, Repr, Inhabited

/-- The wording of a fault. -/
def RunFault.message : RunFault → String
  | .configExists path =>
    "Config file already exists: " ++ path ++ "\nRemove it first or choose a different path."
  | .configMissing path =>
    "Config file not found: " ++ path ++ "\nUse --init " ++ path ++ " to generate a template."
  | .config fault => fault.message
  | .exclude fault => fault.message
  | .unreadable path => "Failed to open " ++ path
  | .search error => error.message

/-- What a run leaves behind. -/
structure Outcome where
  code : Nat
  stdout : String := ""
  stderr : String := ""
  files : FileSystem
  deriving Inhabited

/-! ### Preparing a search -/

/-- The field with the path of a file. It is stored. -/
def pathField : String := "path"

/-- The field with the text of a file. It is loaded from the file when it is checked. -/
def contentField : String := "content"

/-- The field with the grams of the text. -/
def contentGrams : String := "content.ngram"

/-- The schema of files, with a gram field if the search may be accelerated. -/
def fileSchema (s : Settings) (accelerate : Bool) : Schema where
  gramFields :=
    if accelerate then
      [{ name := contentGrams, source := contentField
         analyzer := { gramSize := s.gramSize
                       lowercase := if s.caseSensitive then none else some s.locale } }]
    else []
  unstored := [contentField]

/-- The document of a file, unless it is not text. -/
def fileDocument? (path : String) (bytes : ByteArray) : Option Document :=
  match textOf path bytes with
  | .error _ => none
  | .ok text =>
    if isBinaryContent bytes.toList then none
    else some ((({} : Document).addValues pathField [path]).addValues contentField [text])

/-- The index of the files under some paths. -/
def fileIndex (fs : FileSystem) (s : IndexSettings) (schema : Schema) (paths : List String) :
    Except RunFault Index := do
  let filter ← (FileFilter.ofPatterns s.excludePatterns (some s.maxFileSize)).mapError .exclude
  (fs.discover filter paths).foldlM (fun index path => do
    let bytes ← (fs.read path).mapError fun _ => .unreadable path
    match fileDocument? path bytes with
    | none => return index
    | some document => return (index.add document).2) (Index.empty schema s.options)

namespace SearchRequest

/-- The configuration of a search. What the command line asks for goes before the file. -/
def configure (r : SearchRequest) (fs : FileSystem) (env : Environment) :
    Except RunFault Config := do
  let config ← match r.config with
    | some path =>
      if fs.contains path then (Config.load fs path).mapError .config
      else throw (.configMissing path)
    | none => (Config.loadDefault fs env).mapError .config
  let s := config.regex
  return { config with
    regex := { s with
      caseSensitive := s.caseSensitive || r.caseSensitive
      locale := (r.locale.map Text.Locale.ofTag).getD s.locale
      timeoutMs := r.timeoutMs.getD s.timeoutMs
      rejectUnaccelerated := s.rejectUnaccelerated || r.rejectUnaccelerated } }

/-- The query of a search. -/
def query (r : SearchRequest) (s : Settings) (accelerate : Bool) : Except SearchError RegexQuery := do
  let q ← RegexQuery.ofRegex contentField
    (if r.isLiteral then Pattern.escapeText r.pattern else r.pattern)
  return { q with settings := s, gramField := if accelerate then some contentGrams else none }

/-- The index and the plan of a search. -/
def prepare (r : SearchRequest) (fs : FileSystem) (env : Environment) :
    Except RunFault (Index × CompiledQuery) := do
  let config ← r.configure fs env
  let accelerate := config.index.buildGrams && r.accelerate
  let q ← (r.query config.regex accelerate).mapError .search
  let paths := if r.paths.isEmpty then ["."] else r.paths
  let index ← fileIndex fs config.index (fileSchema config.regex accelerate) paths
  let compiled ← (q.compile index.schema).mapError .search
  return (index, compiled)

end SearchRequest

/-! ### Reporting -/

/-- What a search has found. -/
structure Report where
  pattern : String
  plan : Plan
  /-- The paths of the files with a match, in ascending order. -/
  matched : List String
  stats : SearchStats
  deriving Repr, Inhabited

namespace Report

/-- The report of a search for a pattern. -/
def ofResults (pattern : String) (index : Index) (plan : Plan) (results : SearchResults) :
    Report where
  pattern
  plan := plan.sorted
  matched :=
    (results.hits.filterMap fun a => (index.stored? a pathField).bind List.head?).mergeSort
  stats := results.stats

/-- The paths, each in a line of its own. -/
def lines (r : Report) : String := String.join (r.matched.map (· ++ "\n"))

/-- The numbers of a search. -/
def statsJson (s : SearchStats) : Json := .object [
  ("segments_searched", .number s.segmentsSearched),
  ("segments_skipped", .number s.segmentsSkipped),
  ("candidates", .number s.candidates),
  ("rechecked", .number s.rechecked),
  ("matched", .number s.matched),
  ("timed_out", .bool s.timedOut)]

/-- The whole report. -/
def json (r : Report) : Json := .object [
  ("pattern", .text r.pattern),
  ("plan", .text r.plan.render),
  ("matches", .list (r.matched.map .text)),
  ("stats", statsJson r.stats)]

end Report

/-! ### Running -/

/-- The outcome of a run that fails. -/
def failure (fs : FileSystem) (fault : RunFault) : Outcome :=
  { code := 1, stderr := "Error: " ++ fault.message ++ "\n", files := fs }

/-- Writes a configuration file to start from, where there is none. -/
def runInit (fs : FileSystem) (path : String) : Outcome :=
  if fs.contains path then failure fs (.configExists path)
  else
    match Config.writeTemplate fs path with
    | .error fault => failure fs (.config fault)
    | .ok files => { code := 0, stdout := "Generated config file: " ++ path ++ "\n", files }

variable {m : Type → Type} [Monad m]

/-- Searches files, with a clock for the time that the search may take. -/
def runSearch (fs : FileSystem) (env : Environment) (clock : m Nat) (r : SearchRequest) :
    m Outcome := do
  match r.prepare fs env with
  | .error fault => return failure fs fault
  | .ok (index, compiled) =>
    let explanation := if r.explain then "plan: " ++ compiled.plan.sorted.render ++ "\n" else ""
    match ← index.searchCompiled compiled (Loader.files fs pathField) clock with
    | .error error =>
      let outcome := failure fs (.search error)
      return { outcome with stderr := explanation ++ outcome.stderr }
    | .ok results =>
      let report := Report.ofResults r.pattern index compiled.plan results
      return {
        code := if report.matched.isEmpty then 1 else 0
        stdout := if r.asJson then report.json.render ++ "\n" else report.lines
        stderr := explanation
        files := fs }

/-- The outcome of a command line. -/
def run (fs : FileSystem) (env : Environment) (clock : m Nat) (args : List String) : m Outcome :=
  match Invocation.ofArgs args with
  | .error fault =>
    return { code := 2, stderr := "error: " ++ fault.message ++ "\n\n" ++ helpText, files := fs }
  | .ok .help => return { code := 0, stdout := helpText, files := fs }
  | .ok .version => return { code := 0, stdout := versionText, files := fs }
  | .ok (.init path) => return runInit fs path
  | .ok (.search request) => runSearch fs env clock request

end GramSieve.CommandLine
