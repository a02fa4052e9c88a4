import GramSieve.CommandLine.Run

namespace GramSieve

/-!
# The program

* `Snapshot` — a picture of the files that a command line is about.
* `execute` — takes the picture, runs the command line on it, prints, and writes the file of
  `--init`.
* `main` — the entry of the program.
-/

open Files CommandLine

/-- A picture of files. -/
structure Snapshot where
  files : FileSystem := {}
  /-- The directories whose entries are in the picture. -/
  complete : List String := []

namespace Snapshot

/-- A file or directory of the system, as something to ask about. -/
def located (path : String) := do return (← IO.currentDir) / path

/-- Whether there is a link at a path. -/
def isLink (path : String) : IO Bool := do
  let .ok data ← (← located path).symlinkMetadata.toBaseIO | return false
  return data.type == .symlink

/-- Adds what is at an absolute path without links, and in it. What cannot be read is left out. -/
partial def addTree (s : Snapshot) (path : String) : IO Snapshot := do
  let .ok data ← (← located path).metadata.toBaseIO | return s
  let place := Path.components path
  if data.type == .file then
    let .ok bytes ← (IO.FS.readBinFile path).toBaseIO | return s
    return { s with files := { s.files with root := s.files.root.put (.file bytes) place } }
  if data.type != .dir || s.complete.contains path then return s
  let .ok entries ← (← located path).readDir.toBaseIO | return s
  let files := ((s.files.makeDirs path).toOption).getD s.files
  let mut s : Snapshot := { s with files, complete := path :: s.complete }
  for entry in entries do
    let inner := Path.join path entry.fileName
    if ← isLink inner then
      if let .ok target ← (IO.FS.realPath inner).toBaseIO then
        let link := Node.link target.toString
        s := { s with files :=
          { s.files with root := s.files.root.put link (Path.components inner) } }
        s ← s.addTree target.toString
    else s ← s.addTree inner
  return s

/-- Adds the directories and links on a path, and what it leads to. -/
def addPath (s : Snapshot) (path : String) : IO Snapshot := do
  let directory := (← IO.currentDir).toString
  let mut s := s
  let mut reached := if Path.isAbsolute path then "/" else directory
  for name in Path.components path do
    let next := if name = ".." then (Path.parent? reached).getD "/" else Path.join reached name
    let files := ((s.files.makeDirs reached).toOption).getD s.files
    s := { s with files }
    if ← isLink next then
      let .ok target ← (IO.FS.realPath next).toBaseIO | return s
      let link := Node.link target.toString
      s := { s with files :=
        { s.files with root := s.files.root.put link (Path.components next) } }
      reached := target.toString
    else reached := next
  s.addTree reached

/-- The picture of the files that a command line is about. -/
def ofArgs (args : List String) (env : Environment) : IO Snapshot := do
  let directory := (← IO.currentDir).toString
  let here := Path.components directory
  let files := ((({ here } : FileSystem).makeDirs directory).toOption).getD { here }
  let paths := match Invocation.ofArgs args with
    | .ok (.init path) => [path]
    | .ok (.search r) =>
      (if r.paths.isEmpty then ["."] else r.paths) ++ r.config.toList ++ Config.defaultPaths env
    | _ => []
  paths.foldlM addPath { files }

end Snapshot

/-- The variables of the environment that matter. -/
def readEnvironment : IO Environment := do
  let names := [Config.pathVariable, "XDG_CONFIG_HOME", "HOME"]
  return (← names.mapM fun name => return (name, ← IO.getEnv name)).filterMap fun (name, value?) =>
    value?.map fun value => (name, value)

/-- Runs a command line, and returns the exit code. -/
def execute (args : List String) : IO UInt32 := do
  let env ← readEnvironment
  let clock : IO Nat := IO.monoMsNow
  let outcome ← run (← Snapshot.ofArgs args env).files env clock args
  IO.eprint outcome.stderr
  if let .ok (.init path) := Invocation.ofArgs args then
    if let .ok bytes := outcome.files.read path then
      if outcome.code = 0 then
        if let some parent := Path.parent? path then
          if !parent.isEmpty then IO.FS.createDirAll parent
        IO.FS.writeBinFile path bytes
  IO.print outcome.stdout
  return outcome.code.toUInt32

end GramSieve

/-- The entry of the program. -/
def main (args : List String) : IO UInt32 := GramSieve.execute args
