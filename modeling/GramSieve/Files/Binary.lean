import GramSieve.Files.Path
import GramSieve.Text.CaseFold

namespace GramSieve.Files

/-!
# Files without text

* `hasBinaryExtension` — whether the name of a file promises no text.
* `isBinaryContent` — whether the start of a content does not look like text.
-/

open Text

/-- The extensions of formats without searchable text: programs, images, archives, fonts, documents,
media and compiled code. -/
def binaryExtensions : List String := [
  "exe", "dll", "so", "dylib", "bin", "o", "a", "lib",
  "png", "jpg", "jpeg", "gif", "ico", "bmp", "webp",
  "zip", "tar", "gz", "7z", "rar", "xz", "bz2",
  "woff", "woff2", "ttf", "eot", "otf",
  "pdf", "doc", "docx", "xls", "xlsx",
  "mp3", "mp4", "wav", "avi", "mkv", "mov",
  "pyc", "pyo", "class"]

/-- The lowercase form of an extension; that of `İ` is an i with a combining dot. -/
def lowercaseExtension (extension : String) : String :=
  String.ofList (extension.toList.flatMap fun c =>
    if c = 'İ' then ['i', '\u0307'] else [lowercaseChar c])

/-- Whether the name of a file promises no text. -/
def hasBinaryExtension (path : String) : Bool :=
  (Path.extension? path).any fun extension =>
    binaryExtensions.contains (lowercaseExtension extension)

/-- How many bytes of a content are looked at. -/
def sampleSize : Nat := 8192

/-- Whether a content does not look like text: it holds a null byte, or more than a tenth of it is
control characters other than tabs and line ends. -/
def isBinaryContent (content : List UInt8) : Bool :=
  let sample := content.take sampleSize
  let isControl (b : UInt8) : Bool := b < 32 && b != 9 && b != 10 && b != 13
  sample.contains 0 || sample.length / 10 < sample.countP isControl

end GramSieve.Files
