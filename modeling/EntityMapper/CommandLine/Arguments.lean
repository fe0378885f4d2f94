import EntityMapper.CommandLine.Grammar

/-!
# Reading arguments

The arguments of one level are read one by one into what they give. An option takes its value
from its own argument (`--name=value`, `-nvalue`, `-n=value`) or from the next one, which must
not look like an option. After `--` nothing is an option or a command.
-/
namespace EntityMapper.CommandLine

/-- Why arguments are refused. -/
inductive Misuse where
  | unknownOption (text : String)
  | unexpected (text : String)
  | repeated (option : String)
  | missingValue (option : String)
  | unneededValue (option : String)
  | invalidValue (value : String)
  | missingCommand
  | missingArgument
  deriving DecidableEq, Repr

def Misuse.message : Misuse → String
  | unknownOption text => "unknown option '" ++ text ++ "'"
  | unexpected text => "unexpected argument '" ++ text ++ "'"
  | repeated option => "'--" ++ option ++ "' given more than once"
  | missingValue option => "'--" ++ option ++ "' needs a value"
  | unneededValue option => "'--" ++ option ++ "' takes no value"
  | invalidValue value => "invalid value '" ++ value ++ "'"
  | missingCommand => "no command given"
  | missingArgument => "an argument is missing"

/-- What ends the reading before all arguments are read. -/
inductive Interruption where
  | help
  | version
  | misuse (cause : Misuse)
  deriving DecidableEq, Repr

/-- What the arguments of a level have given so far. -/
structure Given where
  /-- Options in the order given, with their values; a flag has the empty one. -/
  options : List (OptionKey × String) := []
  argument : Option String := none
  /-- An option that waits for its value. -/
  pending : Option OptionSpec := none
  /-- Whether `--` has been read. -/
  argumentsOnly : Bool := false
  deriving Repr

namespace Given

def value? (given : Given) (key : OptionKey) : Option String :=
  given.options.lookup key

def has (given : Given) (key : OptionKey) : Bool :=
  (given.value? key).isSome

def count (given : Given) (key : OptionKey) : Nat :=
  given.options.countP (·.1 = key)

/-- Notes an option; asking for help or the version ends the reading. -/
def addOption (given : Given) (spec : OptionSpec) (value : String) :
    Except Interruption Given :=
  if spec.key = .help then .error .help
  else if spec.key = .version then .error .version
  else if !spec.repeatable && given.has spec.key then .error (.misuse (.repeated spec.long))
  else if spec.takes.all (·.accepts value) then
    .ok { given with options := given.options ++ [(spec.key, value)], pending := none }
  else .error (.misuse (.invalidValue value))

/-- Notes the argument of the level. -/
def addArgument (given : Given) (level : Level) (value : String) : Except Interruption Given :=
  match level.argument, given.argument with
  | some kind, none =>
    if kind.accepts value then .ok { given with argument := some value }
    else .error (.misuse (.invalidValue value))
  | _, _ => .error (.misuse (.unexpected value))

/-- Reads the letters after a single dash: flags, and at the end perhaps an option whose value
is the rest. -/
def readLetters (given : Given) (level : Level) : List Char → Except Interruption Given
  | [] => .ok given
  | letter :: rest =>
    match level.short? letter with
    | none => .error (.misuse (.unknownOption (String.ofList ['-', letter])))
    | some spec =>
      if spec.takes.isSome then
        match rest with
        | [] => .ok { given with pending := some spec }
        | '=' :: value => given.addOption spec (String.ofList value)
        | value => given.addOption spec (String.ofList value)
      else
        match given.addOption spec "" with
        | .error interruption => .error interruption
        | .ok given => given.readLetters level rest

/-- Reads what stands after a double dash: a name, perhaps with `=` and a value. -/
def readLong (given : Given) (level : Level) (text : List Char) : Except Interruption Given :=
  let name := String.ofList (text.takeWhile (· != '='))
  match level.long? name with
  | none => .error (.misuse (.unknownOption ("--" ++ name)))
  | some spec =>
    match spec.takes, text.dropWhile (· != '=') with
    | some _, [] => .ok { given with pending := some spec }
    | some _, _ :: value => given.addOption spec (String.ofList value)
    | none, [] => given.addOption spec ""
    | none, _ :: _ => .error (.misuse (.unneededValue spec.long))

/-- Reads one argument that is no command. -/
def read (given : Given) (level : Level) (word : String) : Except Interruption Given :=
  if given.argumentsOnly then given.addArgument level word
  else
    match given.pending, word.toList with
    | some spec, '-' :: _ :: _ => .error (.misuse (.missingValue spec.long))
    | some spec, _ => given.addOption spec word
    | none, ['-', '-'] => .ok { given with argumentsOnly := true }
    | none, '-' :: '-' :: text => given.readLong level text
    | none, '-' :: letter :: rest => given.readLetters level (letter :: rest)
    | none, _ => given.addArgument level word

/-- What was given once all arguments are read. -/
def finish (given : Given) : Except Interruption Given :=
  match given.pending with
  | some spec => .error (.misuse (.missingValue spec.long))
  | none => .ok given

/-- Reads all arguments of a level without commands. -/
def readAll (level : Level) (given : Given) : List String → Except Interruption Given
  | [] => given.finish
  | word :: rest => do readAll level (← given.read level word) rest

/-- Whether a word may name a command here. -/
def expectsCommand (given : Given) : Bool :=
  !given.argumentsOnly && given.pending.isNone

end Given

/-- The arguments up to the command, the word that names it, and the arguments after it. -/
structure Split where
  before : Given
  command : String
  after : List String
  deriving Repr

/-- Reads the arguments of the top level up to the command. -/
def splitCommand (level : Level) (isCommand : String → Bool) (given : Given) :
    List String → Except Interruption Split
  | [] => do
    let _ ← given.finish
    .error (.misuse .missingCommand)
  | word :: rest =>
    if given.expectsCommand && isCommand word then .ok ⟨given, word, rest⟩
    else do splitCommand level isCommand (← given.read level word) rest

end EntityMapper.CommandLine
