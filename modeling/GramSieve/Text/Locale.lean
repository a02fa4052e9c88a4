import GramSieve.Text.CaseFold
import GramSieve.Text.Quoted
import GramSieve.Unicode.CharClass

namespace GramSieve.Text

/-!
# Locales

The language of a text decides how it is lowercased. Turkish and Azerbaijani have a dotless i, Irish
sets a hyphen behind an initial `n` or `t` before an uppercase vowel, and a search in Greek ignores
accents and the final form of sigma.

* `Locale` — the languages with rules of their own, and all others.
* `Locale.ofTag`, `Locale.tag` — reading and writing language tags.
* `Locale.lowercase` — the lowercase form of a text.
* `Locale.charFold` — the fold of single characters that goes with it.
-/

/-- The language that picks the rules for lowercase. -/
inductive Locale where
  | root
  | turkish
  | azerbaijani
  | irish
  | greek
  | other (tag : String)
  deriving DecidableEq, Repr, Inhabited

namespace Locale

/-- The language of a tag such as `tr`, `el-GR` or `ga_IE`. -/
def ofTag (tag : String) : Locale :=
  let language := (tag.toList.takeWhile fun c => c != '-' && c != '_').map Char.toLower
  match String.ofList language with
  | "" | "root" | "und" => .root
  | "tr" => .turkish
  | "az" => .azerbaijani
  | "ga" => .irish
  | "el" => .greek
  | _ => .other tag

/-- The tag of a language; the shortest one for those with rules of their own. -/
def tag : Locale → String
  | .root => "root"
  | .turkish => "tr"
  | .azerbaijani => "az"
  | .irish => "ga"
  | .greek => "el"
  | .other tag => tag

/-- The name of a locale in reports. -/
def describe : Locale → String
  | .root => "Root"
  | .turkish => "Turkish"
  | .azerbaijani => "Azerbaijani"
  | .irish => "Irish"
  | .greek => "Greek"
  | .other tag => s!"Other({quoted tag})"

/-- Whether lowercasing one character at a time gives wrong answers. -/
def needsPrefolding : Locale → Bool
  | .turkish | .azerbaijani | .irish => true
  | _ => false

/-- The fold of single characters that goes with the locale. -/
def charFold : Locale → CaseFold
  | .greek => .greek
  | .turkish | .azerbaijani => .turkish
  | _ => .lowercase

/-- Lowercase in Turkish: an `I` with a combining dot is an `İ` in two characters. -/
def turkishLowercase : List Char → List Char
  | 'I' :: '\u0307' :: rest => 'i' :: turkishLowercase rest
  | c :: rest => turkishFold c :: turkishLowercase rest
  | [] => []

/-- Whether `c` is an uppercase vowel of Irish. -/
def isIrishUpperVowel (c : Char) : Bool :=
  ['A', 'E', 'I', 'O', 'U', 'Á', 'É', 'Í', 'Ó', 'Ú'].contains c

/-- Lowercase in Irish. An `n` or `t` at the start of a word before an uppercase vowel is a mutation
and gets a hyphen. -/
def irishLowercase (wordStart : Bool) : List Char → List Char
  | [] => []
  | c :: rest =>
    let behind := irishLowercase (!Unicode.isAlphanumeric c) rest
    if wordStart && (c == 'n' || c == 't') && rest.head?.any isIrishUpperVowel then
      c :: '-' :: behind
    else lowercaseChar c :: behind

/-- The lowercase form of the characters of a text. -/
def lowercaseChars : Locale → List Char → List Char
  | .turkish, cs | .azerbaijani, cs => turkishLowercase cs
  | .irish, cs => irishLowercase true cs
  | .greek, cs => cs.map greekFold
  | .root, cs | .other _, cs => cs.map lowercaseChar

/-- The lowercase form of a text. -/
def lowercase (locale : Locale) (text : String) : String :=
  String.ofList (locale.lowercaseChars text.toList)

end Locale

end GramSieve.Text
