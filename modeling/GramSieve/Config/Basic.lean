import GramSieve.Config.Settings
import GramSieve.Config.Toml.Document
import GramSieve.Index.Basic

namespace GramSieve

/-!
# Configurations

* `IndexSettings` — which files are indexed, and how.
* `Config` — the settings of searches and of the index.
* `Config.ofText?` — the configuration that a TOML document gives.
-/

/-- Which files are indexed, and how. -/
structure IndexSettings where
  /-- Glob patterns for the files that are left out. -/
  excludePatterns : List String := [
    "**/node_modules/**", "**/target/**", "**/.git/**", "**/build/**", "**/dist/**",
    "**/__pycache__/**", "**/venv/**", "**/.venv/**"]
  /-- The size in bytes up to which a file is indexed. -/
  maxFileSize : Nat := 10485760
  shards : Nat := 4
  maxDocsPerSegment : Nat := 10000
  /-- Whether the index has grams. -/
  buildGrams : Bool := true
  deriving DecidableEq, Repr, Inhabited

/-- How the index spreads its documents. -/
def IndexSettings.options (s : IndexSettings) : IndexOptions where
  shards := s.shards
  maxDocsPerSegment := s.maxDocsPerSegment

/-- The settings of searches and of the index. -/
structure Config where
  regex : Settings := {}
  index : IndexSettings := {}
  deriving DecidableEq, Repr, Inhabited

namespace Config

/-- The settings of the index that a record gives. -/
def readIndexSettings (v : Value) : Option IndexSettings := do
  let d : IndexSettings := {}
  guard v.isRecord
  return {
    excludePatterns := ← v.read 0 "exclude_patterns" Value.texts? d.excludePatterns
    maxFileSize := ← v.read 1 "max_file_size" Value.nat? d.maxFileSize
    shards := ← v.read 2 "shards" Value.nat? d.shards
    maxDocsPerSegment := ← v.read 3 "max_docs_per_segment" Value.nat? d.maxDocsPerSegment
    buildGrams := ← v.read 4 "build_ngrams" Value.bool? d.buildGrams }

/-- The configuration that a record gives. -/
def readConfig (v : Value) : Option Config := do
  let d : Config := {}
  guard v.isRecord
  return {
    regex := ← v.read 0 "regex" readSettings d.regex
    index := ← v.read 1 "index" readIndexSettings d.index }

/-- The configuration that a TOML document gives. -/
def ofText? (text : String) : Option Config := (Toml.document? text).bind readConfig

end Config

end GramSieve
