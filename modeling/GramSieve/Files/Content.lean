import GramSieve.Files.Tree
import GramSieve.Search.Execution
import GramSieve.Text.Utf8

namespace GramSieve

/-!
# The text of files

* `Files.FileSystem.readText` — the text of a file.
* `Loader.files` — loads values from the files that a stored field names.
-/

open Files Text

/-- The text of some bytes, which are the content of the file at a path. -/
def Files.textOf (path : String) (bytes : ByteArray) : Except LoadFault String :=
  match Utf8.decode bytes.toList with
  | .ok chars => .ok (String.ofList chars)
  | .error fault => .error (.invalidData (path ++ " is not valid UTF-8: " ++ fault.message))

/-- The text of a file. -/
def Files.FileSystem.readText (fs : FileSystem) (path : String) : Except LoadFault String := do
  textOf path (← fs.read path)

/-- Loads the texts of the files whose paths a field of the document holds, whatever field is asked
for. An index then need not store the texts. -/
def Loader.files (fs : FileSystem) (pathField : String) : Loader := fun _ segment doc =>
  ((segment.stored? pathField doc).getD []).mapM fs.readText

end GramSieve
