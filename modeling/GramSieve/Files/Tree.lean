import GramSieve.Error
import GramSieve.Files.Path

namespace GramSieve.Files

/-!
# Trees of files

* `Node` — a file, a directory, or a link to another path.
* `FileSystem` — a tree, and the directory where relative paths start.
* `FileSystem.locate`, `FileSystem.resolve` — what a path leads to, through links.
* `FileSystem.read`, `FileSystem.write`, `FileSystem.makeDirs` — files and directories at a path.
-/

/-- What a name in a directory stands for. The entries of a directory ascend. -/
inductive Node where
  | file (bytes : ByteArray)
  | dir (entries : List (String × Node))
  | link (target : String)
  deriving Inhabited

namespace Node

/-- Sets an entry of a directory, and keeps the order of the entries. -/
def setEntry (name : String) (node : Node) : List (String × Node) → List (String × Node)
  | [] => [(name, node)]
  | (other, old) :: rest =>
    if name < other then (name, node) :: (other, old) :: rest
    else if name = other then (name, node) :: rest
    else (other, old) :: setEntry name node rest

/-- The entries of a directory. -/
def entries : Node → List (String × Node)
  | .dir entries => entries
  | _ => []

/-- The node at a place, which is given by the names from here on. -/
def at? (node : Node) : List String → Option Node
  | [] => some node
  | name :: rest => (node.entries.lookup name).bind fun child => child.at? rest

/-- Puts a node at a place, in directories that are made where there are none. -/
def put (node : Node) (leaf : Node) : List String → Node
  | [] => leaf
  | name :: rest =>
    let child := (node.entries.lookup name).getD (.dir [])
    .dir (setEntry name (child.put leaf rest) node.entries)

mutual

/-- The number of directories in a tree. -/
def dirCount : Node → Nat
  | .dir entries => dirCountList entries + 1
  | _ => 0

/-- The number of directories below some entries. -/
def dirCountList : List (String × Node) → Nat
  | [] => 0
  | (_, node) :: rest => dirCount node + dirCountList rest

end

end Node

/-- A tree of files, and the place of the directory where relative paths start. -/
structure FileSystem where
  root : Node := .dir []
  here : List String := []
  deriving Inhabited

namespace FileSystem

/-- How many links a path may lead through. -/
def maxLinks : Nat := 40

/-- The longest name, and the longest path, in bytes. -/
def maxName : Nat := 255

/-- The longest path, in bytes. -/
def maxPath : Nat := 4095

/-- The place that some names lead to from `place` on, through at most `links` links. Only the last
name may be a new one. -/
def locateFrom (fs : FileSystem) (links : Nat) (place names : List String) :
    Except LoadFault (List String) :=
  match names with
  | [] => .ok place
  | name :: rest =>
    match fs.root.at? place with
    | none => .error .notFound
    | some (.dir entries) =>
      if name = "." then fs.locateFrom links place rest
      else if name = ".." then fs.locateFrom links place.dropLast rest
      else if maxName < name.utf8ByteSize then .error .invalidFilename
      else
        match entries.lookup name with
        | none => if rest.isEmpty then .ok (place ++ [name]) else .error .notFound
        | some (.link target) =>
          match links with
          | 0 => .error .linkLoop
          | links + 1 =>
            fs.locateFrom links (if Path.isAbsolute target then [] else place)
              (Path.steps target ++ rest)
        | some _ => fs.locateFrom links (place ++ [name]) rest
    | some _ => .error .notADirectory
termination_by (links, names.length)

/-- The place that a path leads to, where there need not be anything yet. -/
def locate (fs : FileSystem) (path : String) : Except LoadFault (List String) :=
  if path.isEmpty then .error .notFound
  else if path.toList.contains '\x00' then .error .invalidInput
  else if maxPath < path.utf8ByteSize then .error .invalidFilename
  else fs.locateFrom maxLinks (if Path.isAbsolute path then [] else fs.here) (Path.steps path)

/-- What a path leads to, with its place. -/
def resolve (fs : FileSystem) (path : String) : Except LoadFault (List String × Node) := do
  let place ← fs.locate path
  match fs.root.at? place with
  | some node => return (place, node)
  | none => throw .notFound

/-- Whether a path leads to anything. -/
def contains (fs : FileSystem) (path : String) : Bool := (fs.resolve path).isOk

/-- The bytes of a file. -/
def read (fs : FileSystem) (path : String) : Except LoadFault ByteArray := do
  match ← fs.resolve path with
  | (_, .file bytes) => return bytes
  | _ => throw .notAFile

/-- Writes a file in a directory that is there. -/
def write (fs : FileSystem) (path : String) (bytes : ByteArray) : Except LoadFault FileSystem := do
  let place ← fs.locate path
  match fs.root.at? place with
  | some (.dir _) => throw .notAFile
  | _ => return { fs with root := fs.root.put (.file bytes) place }

/-- Makes the directory of a name inside the one at a place, unless it is there. -/
def makeDir (fs : FileSystem) (place : List String) (name : String) :
    Except LoadFault (List String × FileSystem) := do
  let inner ← fs.locateFrom maxLinks place [name]
  match fs.root.at? inner with
  | some (.dir _) => return (inner, fs)
  | some _ => throw .notADirectory
  | none =>
    if inner = place ++ [name] then
      return (inner, { fs with root := fs.root.put (.dir []) inner })
    else throw .notADirectory

/-- Makes a directory and those it lies in, unless they are there. -/
def makeDirs (fs : FileSystem) (path : String) : Except LoadFault FileSystem := do
  let start := if Path.isAbsolute path then [] else fs.here
  let (_, fs) ← (Path.components path).foldlM
    (fun (place, fs) name => fs.makeDir place name) (start, fs)
  return fs

end FileSystem

end GramSieve.Files
