import GramSieve.Config.Value

namespace GramSieve.Config.Toml

/-!
# Scalars of TOML

* `Reader` — reads something at the start of a text.
* `readString` — strings in one line and in many, with and without escapes.
* `integer?`, `isReal`, `isDateTime` — the spelling of numbers, dates and times.
* `readBare` — a value that is not in quotes.
-/

/-- Reads something at the start of a text, and gives it with the text behind it. -/
abbrev Reader (α : Type) := List Char → Option (α × List Char)

/-- Whether a character is blank inside a line. -/
def isBlank (c : Char) : Bool := c == ' ' || c == '\t'

/-- Whether a character may stand in a comment or a string as it is: all but control characters. -/
def isPlain (c : Char) : Bool := c == '\t' || (' ' ≤ c && c != '\x7f')

/-- The text behind the blanks at its start. -/
def skipBlank (text : List Char) : List Char := text.dropWhile isBlank

/-- The text behind the end of a line. -/
def pastNewline? : List Char → Option (List Char)
  | '\n' :: rest => some rest
  | '\r' :: '\n' :: rest => some rest
  | _ => none

/-! ### Digits -/

/-- The value of a digit, with letters of both cases for those above nine. -/
def digit? (radix : Nat) (c : Char) : Option Nat :=
  let value :=
    if '0' ≤ c ∧ c ≤ '9' then c.toNat - 48
    else if 'a' ≤ c ∧ c ≤ 'f' then c.toNat - 87
    else if 'A' ≤ c ∧ c ≤ 'F' then c.toNat - 55
    else radix
  if value < radix then some value else none

/-- The number that digits write behind those for `acc`. An underscore may stand between two digits;
`behind` tells whether a digit stands before the rest. -/
def digitsFrom? (radix : Nat) (behind : Bool) (acc : Nat) : List Char → Option Nat
  | [] => if behind then some acc else none
  | c :: rest =>
    if c = '_' then if behind then digitsFrom? radix false acc rest else none
    else
      match digit? radix c with
      | some d => digitsFrom? radix true (radix * acc + d) rest
      | none => none

/-- The number that digits write, at least one of them. -/
def digits? (radix : Nat) (text : List Char) : Option Nat := digitsFrom? radix false 0 text

/-- The number that decimal digits write. No zero goes before other digits. -/
def decimal? (text : List Char) : Option Nat :=
  match text with
  | '0' :: _ :: _ => none
  | _ => digits? 10 text

/-! ### Strings -/

/-- The character that a hexadecimal number of fixed width names. -/
def codePoint? (digits : List Char) : Option Char := do
  let n := (← digits.mapM (digit? 16)).foldl (fun n d => 16 * n + d) 0
  if n.isValidChar then return Char.ofNat n else none

/-- The character that a backslash and a letter stand for. -/
def escaped? : Char → Option Char
  | 'b' => some '\x08'
  | 't' => some '\t'
  | 'n' => some '\n'
  | 'f' => some '\x0c'
  | 'r' => some '\r'
  | '"' => some '"'
  | '\\' => some '\\'
  | _ => none

/-- The end of a string in many lines behind its first quote: three quotes, and one or two more
before them that belong to the string. -/
def closing? (quote : Char) (rest : List Char) : Option (List Char × List Char) :=
  if rest.take 2 = [quote, quote] then
    let more := ((rest.drop 2).take 2).takeWhile (· == quote)
    some (more, rest.drop (2 + more.length))
  else none

/-- Reads the rest of a string, behind the characters `before` in reverse. Strings in double quotes
have escapes. With `lines` the string may go over many lines: it ends with three quotes, all line
ends become `\n`, and a backslash at the end of a line takes away what is blank up to the next
character, where `trim` tells whether this is going on. -/
def readQuoted (quote : Char) (lines trim : Bool) (before : List Char) : Reader String
  | [] => none
  | '\n' :: rest | '\r' :: '\n' :: rest =>
    if lines then readQuoted quote lines trim (if trim then before else '\n' :: before) rest
    else none
  | c :: rest =>
    if c = quote then
      if lines then
        match closing? quote rest with
        | some (more, rest) => some (String.ofList (before.reverse ++ more), rest)
        | none => readQuoted quote lines false (c :: before) rest
      else some (String.ofList before.reverse, rest)
    else if trim && isBlank c then readQuoted quote lines trim before rest
    else if c = '\\' && quote == '"' then
      if lines && (pastNewline? (skipBlank rest)).isSome then
        readQuoted quote lines true before rest
      else
        match rest with
        | 'u' :: a :: b :: c :: d :: rest =>
          match codePoint? [a, b, c, d] with
          | some ch => readQuoted quote lines false (ch :: before) rest
          | none => none
        | 'U' :: a :: b :: c :: d :: e :: f :: g :: h :: rest =>
          match codePoint? [a, b, c, d, e, f, g, h] with
          | some ch => readQuoted quote lines false (ch :: before) rest
          | none => none
        | c :: rest =>
          match escaped? c with
          | some ch => readQuoted quote lines false (ch :: before) rest
          | none => none
        | [] => none
    else if isPlain c then readQuoted quote lines false (c :: before) rest
    else none

/-- Reads the rest of a string in one line. -/
def readLine (quote : Char) : Reader String := readQuoted quote false false []

/-- Reads the rest of a string in many lines. A line end right at its start does not count. -/
def readLines (quote : Char) : Reader String := fun text =>
  readQuoted quote true false [] ((pastNewline? text).getD text)

/-- Reads a string whose first quote is next. -/
def readString : Reader String
  | '"' :: '"' :: '"' :: rest => readLines '"' rest
  | '\'' :: '\'' :: '\'' :: rest => readLines '\'' rest
  | '"' :: rest => readLine '"' rest
  | '\'' :: rest => readLine '\'' rest
  | _ => none

/-! ### Numbers -/

/-- The sign of a number, and what stands behind it. -/
def splitSign : List Char → Bool × List Char
  | '-' :: rest => (true, rest)
  | '+' :: rest => (false, rest)
  | text => (false, text)

/-- The integer of a spelling, which is a word of 64 bits with a sign. -/
def integer? (text : List Char) : Option Int := do
  let n : Int ← match text with
    | '0' :: 'x' :: digits => Int.ofNat <$> digits? 16 digits
    | '0' :: 'o' :: digits => Int.ofNat <$> digits? 8 digits
    | '0' :: 'b' :: digits => Int.ofNat <$> digits? 2 digits
    | _ =>
      let (isNegative, digits) := splitSign text
      (fun n => if isNegative then -Int.ofNat n else n) <$> decimal? digits
  if Int64.minValue.toInt ≤ n ∧ n ≤ Int64.maxValue.toInt then return n else none

/-- Whether `mantissa * 10 ^ exponent` is so large that it rounds to no double. -/
def isTooLarge (mantissa : Nat) (exponent : Int) : Bool :=
  let bound := Nat.pow 2 1024 - Nat.pow 2 970
  if mantissa = 0 then false
  else if 400 < exponent then true
  else
    match exponent with
    | .ofNat e => decide (bound ≤ mantissa * Nat.pow 10 e)
    | .negSucc e =>
      -- A mantissa has at least as many bits as digits, which bounds what is worth dividing by.
      decide (e < mantissa.log2) && decide (bound * Nat.pow 10 (e + 1) ≤ mantissa)

/-- The parts of a number: the digits before a point or an exponent, those behind the point, and what
stands behind the letter of the exponent. -/
structure RealParts where
  whole : List Char
  fraction : Option (List Char) := none
  exponent : Option (List Char) := none
  deriving DecidableEq, Repr, Inhabited

namespace RealParts

/-- Splits the spelling of a number. -/
def ofText (text : List Char) : RealParts :=
  let isExponent (c : Char) : Bool := c == 'e' || c == 'E'
  let mantissa := text.takeWhile fun c => !isExponent c
  { whole := mantissa.takeWhile (· != '.')
    fraction := (mantissa.dropWhile (· != '.')).tail?
    exponent := (text.dropWhile fun c => !isExponent c).tail? }

/-- The mantissa and the exponent of a number. -/
def value? (p : RealParts) : Option (Nat × Int) := do
  let fraction := p.fraction.getD ['0']
  let (isDown, exponent) := splitSign (p.exponent.getD ['0'])
  let whole ← decimal? p.whole
  let places := fraction.countP (· != '_')
  let mantissa := whole * Nat.pow 10 places + (← digits? 10 fraction)
  let shift : Int := Int.ofNat (← digits? 10 exponent)
  return (mantissa, (if isDown then -shift else shift) - places)

end RealParts

/-- Whether a spelling is that of a number with a fraction or an exponent. Such a number has to be a
double, unless it is negative. -/
def isReal (text : List Char) : Bool :=
  let (isNegative, text) := splitSign text
  let p := RealParts.ofText text
  text = ['i', 'n', 'f'] || text = ['n', 'a', 'n'] ||
    (p.fraction.isSome || p.exponent.isSome) &&
      p.value?.any fun (mantissa, exponent) => isNegative || !isTooLarge mantissa exponent

/-! ### Dates and times -/

/-- Reads a number of fixed width in a range. -/
def readField (width low high : Nat) : Reader Nat := fun text => do
  let digits := text.take width
  if digits.length = width ∧ digits.all Char.isDigit then
    let n ← digits? 10 digits
    if low ≤ n ∧ n ≤ high then return (n, text.drop width) else none
  else none

/-- The number of days of a month. -/
def daysOf (year month : Nat) : Nat :=
  if month = 2 then if year % 4 = 0 ∧ (year % 100 ≠ 0 ∨ year % 400 = 0) then 29 else 28
  else if month = 4 ∨ month = 6 ∨ month = 9 ∨ month = 11 then 30
  else 31

/-- The text behind a date. -/
def pastDate? (text : List Char) : Option (List Char) := do
  let ('-' :: text, year) := (← readField 4 0 9999 text).swap | none
  let ('-' :: text, month) := (← readField 2 1 12 text).swap | none
  return (← readField 2 1 (daysOf year month) text).2

/-- The text behind a time of day. -/
def pastTime? (text : List Char) : Option (List Char) := do
  let (_, ':' :: text) ← readField 2 0 23 text | none
  let (_, ':' :: text) ← readField 2 0 59 text | none
  let (_, text) ← readField 2 0 60 text
  match text with
  | '.' :: c :: rest => return if c.isDigit then rest.dropWhile Char.isDigit else text
  | _ => return text

/-- Whether a text is the distance of a clock from universal time. -/
def isOffset : List Char → Bool
  | [c] => c == 'Z' || c == 'z'
  | c :: text =>
    (c == '+' || c == '-') &&
      match readField 2 0 23 text with
      | some (_, ':' :: text) => (readField 2 0 59 text).any fun r => r.2.isEmpty
      | _ => false
  | [] => false

/-- Whether a text is a date, a time, or both. -/
def isDateTime (text : List Char) : Bool :=
  match pastDate? text with
  | some [] => true
  | some (c :: rest) =>
    (c == 'T' || c == 't' || c == ' ') &&
      (pastTime? rest).any fun rest => rest.isEmpty || isOffset rest
  | none => pastTime? text = some []

/-! ### Values without quotes -/

/-- Whether a character may stand in a value without quotes. -/
def isBare (c : Char) : Bool :=
  c.isAlphanum || c == '_' || c == '+' || c == '-' || c == '.' || c == ':'

/-- The value of a word without quotes. -/
def bareValue? (word : List Char) : Option Value :=
  if word = ['t', 'r', 'u', 'e'] then some (.bool true)
  else if word = ['f', 'a', 'l', 's', 'e'] then some (.bool false)
  else if isDateTime word then some .date
  else if isReal word then some .real
  else (integer? word).map .integer

/-- Reads a value without quotes. Between a date and a time there may be a space. -/
def readBare : Reader Value := fun text => do
  let word := text.takeWhile isBare
  let rest := text.dropWhile isBare
  match rest with
  | ' ' :: after =>
    let both := word ++ ' ' :: after.takeWhile isBare
    if isDateTime both then return (.date, after.dropWhile isBare)
    else return (← bareValue? word, rest)
  | _ => return (← bareValue? word, rest)

end GramSieve.Config.Toml
