import GramSieve.CommandLine.Options

namespace GramSieve.CommandLine

/-!
# Reading the command line

* `Invocation`, `SearchRequest` — what a command line asks for.
* `UsageFault` — why it asks for nothing, with the wording.
* `Invocation.ofArgs` — reads a command line from left to right.

Letters may share a dash. The value of an option stands in the next argument or directly behind the
option, after `=` if one likes. Behind `--` there are no options, and `-` is none. Help and version
are given at once, whatever follows.
-/

/-- A search. -/
structure SearchRequest where
  pattern : String
  /-- The files and directories to search; the current directory if there are none. -/
  paths : List String := []
  /-- The configuration file. -/
  config : Option String := none
  caseSensitive : Bool := false
  /-- The tag of a language. -/
  locale : Option String := none
  /-- The pattern is a text to look for, and no regular expression. -/
  isLiteral : Bool := false
  timeoutMs : Option Nat := none
  /-- Whether grams may accelerate the search. -/
  accelerate : Bool := true
  rejectUnaccelerated : Bool := false
  /-- Whether the plan is shown. -/
  explain : Bool := false
  asJson : Bool := false
  deriving DecidableEq, Repr, Inhabited

/-- What a command line asks for. -/
inductive Invocation where
  | help
  | version
  /-- A configuration file to start from. -/
  | init (path : String)
  | search (request : SearchRequest)
  deriving DecidableEq, Repr, Inhabited

/-- Why a command line asks for nothing. -/
inductive UsageFault where
  | unknownOption (option : String)
  | missingValue (option : String)
  | unexpectedValue (option : String)
  | repeated (option : String)
  | notANumber (option value : String)
  | emptyPath
  | missingPattern
  deriving DecidableEq, Repr, Inhabited

/-- The wording of a fault. -/
def UsageFault.message : UsageFault → String
  | .unknownOption option => "unknown option " ++ option
  | .missingValue option => option ++ " needs a value"
  | .unexpectedValue option => option ++ " takes no value"
  | .repeated option => option ++ " is given twice"
  | .notANumber option value => value ++ " is no number for " ++ option
  | .emptyPath => "a path is empty"
  | .missingPattern => "a pattern is needed"

/-- Why the reading of a command line ends early. -/
inductive Stop where
  | help
  | version
  | fault (fault : UsageFault)
  deriving DecidableEq, Repr, Inhabited

/-- What has been read of a command line. -/
structure Given where
  /-- The options with their values, the last one first. -/
  choices : List (Choice × String) := []
  /-- The other arguments, the last one first. -/
  operands : List String := []
  deriving Repr, Inhabited

namespace Given

/-- Whether an option is given. -/
def has (g : Given) (choice : Choice) : Bool := (g.choices.lookup choice).isSome

/-- Notes an argument that is no option. The first one is the pattern; all others are paths. -/
def addOperand (g : Given) (arg : String) : Except Stop Given :=
  if arg.isEmpty && !g.operands.isEmpty then .error (.fault .emptyPath)
  else .ok { g with operands := arg :: g.operands }

/-- The number that decimal digits write, which is a word of 64 bits. -/
def number? (text : String) : Option Nat :=
  let digits := match text.toList with
    | '+' :: digits => digits
    | digits => digits
  if digits.isEmpty || !digits.all Char.isDigit then none
  else
    let n := digits.foldl (fun n c => 10 * n + (c.toNat - 48)) 0
    if n < UInt64.size then some n else none

/-- Notes an option and its value, which is empty if it takes none. -/
def addSwitch (g : Given) (s : Switch) (value : String) : Except Stop Given :=
  match s.choice with
  | .help => .error .help
  | .version => .error .version
  | choice =>
    if g.has choice then .error (.fault (.repeated s.spelling))
    else if (choice = .config || choice = .init) && value.isEmpty then .error (.fault .emptyPath)
    else if choice = .timeout && (number? value).isNone then
      .error (.fault (.notANumber s.spelling value))
    else .ok { g with choices := (choice, value) :: g.choices }

/-- Whether an argument starts options, and so is no value of one. -/
def isOption (arg : String) : Bool := arg.startsWith "-" && arg != "-"

/-- Notes options that share a dash. One that takes a value ends them: the value is what follows,
or it stands in the next argument and the option is given back. -/
def addLetters (g : Given) : List Char → Except Stop (Given × Option Switch)
  | [] => .ok (g, none)
  | letter :: rest =>
    match Switch.lettered? letter with
    | none => .error (.fault (.unknownOption ("-" ++ String.singleton letter)))
    | some s =>
      if s.value.isSome then
        match rest with
        | [] => .ok (g, some s)
        | '=' :: value => (g.addSwitch s (String.ofList value)).map (·, none)
        | value => (g.addSwitch s (String.ofList value)).map (·, none)
      else
        match g.addSwitch s "" with
        | .ok g => g.addLetters rest
        | .error stop => .error stop

/-- Notes an option that is given by its name, perhaps with a value behind `=`. An option whose
value stands in the next argument is given back. -/
def addName (g : Given) (text : List Char) : Except Stop (Given × Option Switch) :=
  let name := String.ofList (text.takeWhile (· != '='))
  let value := match text.dropWhile (· != '=') with
    | _ :: value => some (String.ofList value)
    | [] => none
  match Switch.named? name with
  | none => .error (.fault (.unknownOption ("--" ++ name)))
  | some s =>
    match s.value.isSome, value with
    | true, some value => (g.addSwitch s value).map (·, none)
    | true, none => .ok (g, some s)
    | false, none => (g.addSwitch s "").map (·, none)
    | false, some _ => .error (.fault (.unexpectedValue s.spelling))

/-- Notes an argument. An option whose value stands in the next argument is given back. -/
def add (g : Given) (arg : String) : Except Stop (Given × Option Switch) :=
  match arg.toList with
  | '-' :: '-' :: text => g.addName text
  | '-' :: c :: text => g.addLetters (c :: text)
  | _ => (g.addOperand arg).map (·, none)

/-- Notes all arguments of a command line. -/
def addAll (g : Given) : List String → Except Stop Given
  | [] => .ok g
  | arg :: rest =>
    if arg = "--" then rest.foldlM addOperand g
    else
      match g.add arg with
      | .error stop => .error stop
      | .ok (g, none) => g.addAll rest
      | .ok (g, some s) =>
        match rest with
        | [] => .error (.fault (.missingValue s.spelling))
        | value :: rest =>
          if isOption value then .error (.fault (.missingValue s.spelling))
          else
            match g.addSwitch s value with
            | .ok g => g.addAll rest
            | .error stop => .error stop

/-- The invocation of a whole command line. -/
def invocation (g : Given) : Except Stop Invocation :=
  match g.choices.lookup .init, g.operands.reverse with
  | some path, _ => .ok (.init path)
  | none, [] => .error (.fault .missingPattern)
  | none, pattern :: paths => .ok (.search {
      pattern, paths
      config := g.choices.lookup .config
      caseSensitive := g.has .caseSensitive
      locale := g.choices.lookup .locale
      isLiteral := g.has .fixedStrings
      timeoutMs := (g.choices.lookup .timeout).bind number?
      accelerate := !g.has .noAccelerate
      rejectUnaccelerated := g.has .rejectUnaccelerated
      explain := g.has .explain
      asJson := g.has .json })

end Given

/-- What a command line asks for. -/
def Invocation.ofArgs (args : List String) : Except UsageFault Invocation :=
  match (Given.addAll {} args).bind Given.invocation with
  | .ok invocation => .ok invocation
  | .error .help => .ok .help
  | .error .version => .ok .version
  | .error (.fault fault) => .error fault

end GramSieve.CommandLine
