import GramSieve.Pattern.Fault
import GramSieve.Pattern.Tree
import GramSieve.Unicode.Age
import GramSieve.Unicode.Category
import GramSieve.Unicode.CharClass
import GramSieve.Unicode.Property
import GramSieve.Unicode.PropertyName
import GramSieve.Unicode.Script
import GramSieve.Unicode.Segmentation

namespace GramSieve.Pattern

/-!
# Character classes by name

* `PropertyQuery.resolve` — the characters that `\p` asks for.
* `AsciiKind.set`, `PerlKind.set` — the characters of the other named classes.
-/

open Unicode

/-- The characters in `found`, or a fault. -/
def orFault (kind : FaultKind) (found : Option CodeSet) : Except FaultKind CodeSet :=
  match found with
  | some set => .ok set
  | none => .error kind

/-- The general category that a loose name stands for, with the three names that are wider than a
category. -/
def categoryName? (name : String) : Option String :=
  match name with
  | "any" => some "Any"
  | "assigned" => some "Assigned"
  | "ascii" => some "ASCII"
  | _ => canonicalName? categoryNames name

/-- The characters of a general category. -/
def resolveCategory (name : String) : Except FaultKind CodeSet :=
  match name with
  | "Any" => .ok [.between 0 0x10FFFF]
  | "ASCII" => .ok [.between 0 0x7F]
  | "Assigned" => .ok (CodeSet.complement .unicode (categorySet "Unassigned"))
  | _ => orFault .propertyValueNotFound (category? name)

/-- The characters that a single name asks for: a binary property, a general category or a script.
The names `cf`, `sc` and `lc` are categories, although they are short for properties too. -/
def resolveName (written : String) : Except FaultKind CodeSet :=
  let name := looseName written
  let property := if name = "cf" || name = "sc" || name = "lc" then none
    else canonicalName? propertyNames name
  match property, categoryName? name, canonicalName? scriptNames name with
  | some property, _, _ => orFault .propertyNotFound (property? property)
  | none, some category, _ => resolveCategory category
  | none, none, some script => orFault .propertyValueNotFound (script? script)
  | none, none, none => .error .propertyNotFound

/-- The version that a loose name stands for: `6.0` or `v60`. -/
def ageName? (name : String) : Option String :=
  (ages.find? fun age => looseName age.1 == name ||
    String.ofList ((age.1.toList.drop 1).map fun c => if c = '_' then '.' else c) == name).map (·.1)

/-- The characters for which a property has a value. -/
def resolveValue (writtenName writtenValue : String) : Except FaultKind CodeSet := do
  let value := looseName writtenValue
  match canonicalName? propertyNames (looseName writtenName) with
  | none => .error .propertyNotFound
  | some property =>
    let via (names : List (String × List String)) (set? : String → Option CodeSet) :=
      orFault .propertyValueNotFound ((canonicalName? names value).bind set?)
    match property with
    | "General_Category" =>
      match categoryName? value with
      | none => .error .propertyValueNotFound
      | some category => resolveCategory category
    | "Script" => via scriptNames script?
    | "Script_Extensions" => via scriptNames scriptExtension?
    | "Age" => orFault .propertyValueNotFound ((ageName? value).bind age?)
    | "Grapheme_Cluster_Break" => via graphemeBreakNames graphemeBreak?
    | "Word_Break" => via wordBreakNames wordBreak?
    | "Sentence_Break" => via sentenceBreakNames sentenceBreak?
    | _ => .error .propertyValueNotFound

/-- The characters that `\p` asks for. -/
def PropertyQuery.resolve : PropertyQuery → Except FaultKind CodeSet
  | .letter c => resolveName (String.singleton c)
  | .named name => resolveName name
  | .valued name value => resolveValue name value

/-- The characters of a class such as `[:alpha:]`. -/
def AsciiKind.set : AsciiKind → CodeSet
  | .alnum => [.between 0x30 0x39, .between 0x41 0x5A, .between 0x61 0x7A]
  | .alpha => [.between 0x41 0x5A, .between 0x61 0x7A]
  | .ascii => [.between 0 0x7F]
  | .blank => [.single 0x09, .single 0x20]
  | .cntrl => [.between 0 0x1F, .single 0x7F]
  | .digit => [.between 0x30 0x39]
  | .graph => [.between 0x21 0x7E]
  | .lower => [.between 0x61 0x7A]
  | .print => [.between 0x20 0x7E]
  | .punct => [.between 0x21 0x2F, .between 0x3A 0x40, .between 0x5B 0x60, .between 0x7B 0x7E]
  | .space => [.between 0x09 0x0D, .single 0x20]
  | .upper => [.between 0x41 0x5A]
  | .word => [.between 0x30 0x39, .between 0x41 0x5A, .single 0x5F, .between 0x61 0x7A]
  | .xdigit => [.between 0x30 0x39, .between 0x41 0x46, .between 0x61 0x66]

/-- The characters of `\d`, `\s` or `\w` over an alphabet. -/
def PerlKind.set : Alphabet → PerlKind → CodeSet
  | .unicode, .digit => digitSet
  | .unicode, .space => spaceSet
  | .unicode, .word => wordSet
  | .bytes, .digit => AsciiKind.digit.set
  | .bytes, .space => AsciiKind.space.set
  | .bytes, .word => AsciiKind.word.set

end GramSieve.Pattern
