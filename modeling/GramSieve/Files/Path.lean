namespace GramSieve.Files

/-!
# Paths

* `components` — the names in a path; empty names and `.` do not count.
* `fileName?`, `extension?` — the last name, and what stands behind its last dot.
* `steps` — the names that lead from a directory to what a path is for.
* `parent?`, `join` — the directory of a path, and a name inside a directory.
-/

namespace Path

/-- The pieces between the slashes of a path. -/
def pieces (path : String) : List String := path.splitToList (· == '/')

/-- The names in a path. Empty names and `.` name nothing. -/
def components (path : String) : List String := (pieces path).filter fun p => p != "" && p != "."

/-- The last name in a path, unless it is `..`. -/
def fileName? (path : String) : Option String :=
  match (components path).getLast? with
  | some ".." => none
  | last => last

/-- What stands behind the last dot of a name, if there is something before the dot. -/
def nameExtension? (name : String) : Option String :=
  let backwards := name.toList.reverse
  let extension := (backwards.takeWhile (· != '.')).reverse
  match backwards.dropWhile (· != '.') with
  | _ :: _ :: _ => some (String.ofList extension)
  | _ => none

/-- The extension of the last name in a path. -/
def extension? (path : String) : Option String := (fileName? path).bind nameExtension?

/-- Whether a path starts at the root. -/
def isAbsolute (path : String) : Bool := path.startsWith "/"

/-- The names that lead to what a path is for. Behind a last slash there must be a directory, which
is what `.` asks for. -/
def steps (path : String) : List String :=
  (pieces path).filter (· != "") ++ if path.endsWith "/" then ["."] else []

/-- The pieces without those at the end that name nothing, unless there is only one. -/
def trim (pieces : List String) : List String :=
  let backwards := pieces.reverse
  let kept := backwards.dropWhile fun p => p == "" || p == "."
  if kept.isEmpty then pieces.take 1 else kept.reverse

/-- The path of the directory that a path lies in. The root and the empty path lie in none. -/
def parent? (path : String) : Option String :=
  match trim (pieces path) with
  | [""] => none
  | trimmed =>
    match trimmed.dropLast with
    | [] => some ""
    | front =>
      let front := trim front
      some (if front = [""] then "/" else "/".intercalate front)

/-- A name inside the directory at `path`. -/
def join (path name : String) : String :=
  if isAbsolute name then name
  else if path.isEmpty || path.endsWith "/" then path ++ name
  else path ++ "/" ++ name

end Path

end GramSieve.Files
