import GramSieve.Files.Binary
import GramSieve.Files.Glob
import GramSieve.Files.Tree

namespace GramSieve.Files

/-!
# Finding files

* `FileFilter` — which of the files are wanted, made of glob patterns or refused by an
  `InvalidExclude`.
* `FileSystem.filesUnder` — the files at a path and in the directories below, links followed.
* `FileSystem.discover` — the wanted files under some paths.
-/

/-- Which of the files that are found are wanted. -/
structure FileFilter where
  exclude : List Glob := []
  /-- The size in bytes up to which a file is wanted. -/
  maxSize : Option Nat := none
  deriving Inhabited

/-- A pattern for files that are not wanted is no glob pattern. -/
structure InvalidExclude where
  pattern : String
  deriving DecidableEq, Repr, Inhabited

/-- The wording of the fault. -/
def InvalidExclude.message (fault : InvalidExclude) : String :=
  "Invalid exclude glob pattern: " ++ fault.pattern

/-- The filter with some patterns for files that are not wanted. -/
def FileFilter.ofPatterns (patterns : List String) (maxSize : Option Nat) :
    Except InvalidExclude FileFilter := do
  let exclude ← patterns.mapM fun pattern =>
    match Glob.parse? pattern with
    | some glob => pure glob
    | none => throw ⟨pattern⟩
  return { exclude, maxSize }

/-- Whether a file is wanted. -/
def FileFilter.accepts (filter : FileFilter) (path : String) (size : Nat) : Bool :=
  !(filter.exclude.any fun glob => glob.matchesPath path) && !hasBinaryExtension path &&
    filter.maxSize.all (size ≤ ·)

namespace FileSystem

/-- The files at a path and below it with their sizes, the names in a directory in ascending order.
What the path leads to is not followed if it is a link to a directory that is being visited.
`ancestors` are these directories, and `depth` bounds how far down the walk goes. -/
def filesFrom (fs : FileSystem) :
    Nat → List (List String) → Bool → String → List (String × Nat)
  | 0, _, _, _ => []
  | depth + 1, ancestors, isLink, path =>
    match fs.resolve path with
    | .ok (_, .file bytes) => [(path, bytes.size)]
    | .ok (place, .dir entries) =>
      if isLink && ancestors.contains place then []
      else
        entries.flatMap fun (name, node) =>
          let isLink := match node with | .link _ => true | _ => false
          fs.filesFrom depth (place :: ancestors) isLink (Path.join path name)
    | _ => []

/-- The files at a path and below it. Between two links to the same directory there is no third, and
between two links the walk goes down a branch of the tree, so its depth is bounded. -/
def filesUnder (fs : FileSystem) (path : String) : List (String × Nat) :=
  let dirs := fs.root.dirCount + 1
  fs.filesFrom (dirs * dirs + 1) [] true path

/-- The wanted files under some paths, in the order of the paths. -/
def discover (fs : FileSystem) (filter : FileFilter) (paths : List String) : List String :=
  ((paths.flatMap fs.filesUnder).filter fun (path, size) => filter.accepts path size).map (·.1)

end FileSystem

end GramSieve.Files
