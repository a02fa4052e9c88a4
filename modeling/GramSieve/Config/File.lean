import GramSieve.Config.Basic
import GramSieve.Config.Template
import GramSieve.Files.Content

namespace GramSieve

/-!
# Configuration files

* `ConfigFault` — why there is no configuration, with its wording.
* `Config.load`, `Config.writeTemplate` — reads a file, and makes one to start from.
* `Config.find?` — the file that is read when none is named.
-/

open Files

/-- Why a configuration could not be read or written. -/
inductive ConfigFault where
  | unreadable (path : String)
  | malformed (path : String)
  | noDirectory (path : String)
  | unwritable (path : String)
  deriving DecidableEq, Repr, Inhabited

/-- The wording of a fault. -/
def ConfigFault.message : ConfigFault → String
  | .unreadable path => "Failed to read config file: " ++ path
  | .malformed path => "Failed to parse config file: " ++ path
  | .noDirectory path => "Failed to create config directory: " ++ path
  | .unwritable path => "Failed to write config file: " ++ path

/-- The variables of an environment with their values. -/
abbrev Environment := List (String × String)

namespace Config

/-- The configuration in a file. -/
def load (fs : FileSystem) (path : String) : Except ConfigFault Config :=
  match fs.readText path with
  | .error _ => .error (.unreadable path)
  | .ok text =>
    match ofText? text with
    | none => .error (.malformed path)
    | some config => .ok config

/-- Writes a configuration with all defaults to a file, in a directory that is made if need be. -/
def writeTemplate (fs : FileSystem) (path : String) : Except ConfigFault FileSystem := do
  let fs ← match Path.parent? path with
    | none => pure fs
    | some parent => (fs.makeDirs parent).mapError fun _ => .noDirectory parent
  (fs.write path template.toUTF8).mapError fun _ => .unwritable path

/-- The variable that names a configuration file. -/
def pathVariable : String := "NGRAM_REGEX_CONFIG"

/-- The configuration file of a directory. -/
def localPath : String := "ngram_regex.toml"

/-- The directory of a user's configuration files. -/
def userDirectory? (env : Environment) : Option String :=
  match (env.lookup "XDG_CONFIG_HOME").filter Path.isAbsolute with
  | some directory => some directory
  | none => ((env.lookup "HOME").filter (· ≠ "")).map fun home => Path.join home ".config"

/-- The configuration file of a user. -/
def userPath? (env : Environment) : Option String :=
  (userDirectory? env).map fun directory =>
    Path.join (Path.join directory "ngram_regex") "config.toml"

/-- Where to look for a configuration when none is named: in the file that the environment names,
in the directory, and with the user. -/
def defaultPaths (env : Environment) : List String :=
  (env.lookup pathVariable).toList ++ localPath :: (userPath? env).toList

/-- The configuration file that is read when none is named: the first one that is there. -/
def find? (fs : FileSystem) (env : Environment) : Option String :=
  (defaultPaths env).find? fs.contains

/-- The configuration when no file is named. -/
def loadDefault (fs : FileSystem) (env : Environment) : Except ConfigFault Config :=
  match find? fs env with
  | some path => load fs path
  | none => .ok {}

end Config

end GramSieve
