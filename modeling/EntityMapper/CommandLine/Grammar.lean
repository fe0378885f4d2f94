import EntityMapper.Text.Segments

/-!
# The grammar of the command line

Which options, commands and arguments there are, as data. An option takes nothing or one value;
a level of the command line has options, at most one argument and, at the top, commands.
-/
namespace EntityMapper.CommandLine

/-- What a value has to be. -/
inductive ValueKind where
  | text
  /-- Any text but the empty one. -/
  | path
  | choice (words : List String)
  deriving DecidableEq, Repr

def ValueKind.accepts (kind : ValueKind) (value : String) : Bool :=
  match kind with
  | text => true
  | path => value ≠ ""
  | choice words => words.contains value

inductive OptionKey where
  | config | verbose | version | help | output | dryRun | package | tablesClass | format
  deriving DecidableEq, Repr

structure OptionSpec where
  key : OptionKey
  short : Option Char
  long : String
  /-- What the option takes; nothing for a flag. -/
  takes : Option ValueKind := none
  /-- Whether giving it again at one level is allowed. -/
  repeatable : Bool := false
  deriving DecidableEq, Repr

inductive CommandName where
  | generate | check | inspect | completions
  deriving DecidableEq, Repr

namespace CommandName

def all : List CommandName := [generate, check, inspect, completions]

def text : CommandName → String
  | generate => "generate"
  | check => "check"
  | inspect => "inspect"
  | completions => "completions"

def ofText? (word : String) : Option CommandName :=
  all.find? (·.text = word)

end CommandName

/-- One level of the command line. -/
structure Level where
  options : List OptionSpec
  argument : Option ValueKind := none
  /-- Whether a command follows. -/
  hasCommands : Bool := false
  deriving Repr

namespace Level

def short? (level : Level) (letter : Char) : Option OptionSpec :=
  level.options.find? (·.short = some letter)

def long? (level : Level) (name : String) : Option OptionSpec :=
  level.options.find? (·.long = name)

end Level

def formatNames : List String := ["text", "json"]

def shellNames : List String := ["bash", "elvish", "fish", "powershell", "zsh"]

/-- The options that every level has. -/
def commonOptions : List OptionSpec := [
  { key := .config, short := some 'c', long := "config", takes := some .path },
  { key := .verbose, short := some 'v', long := "verbose", repeatable := true },
  { key := .help, short := some 'h', long := "help" }]

def topLevel : Level where
  options := commonOptions ++ [{ key := .version, short := some 'V', long := "version" }]
  hasCommands := true

def CommandName.level : CommandName → Level
  | generate => {
      options := commonOptions ++ [
        { key := .output, short := some 'o', long := "output", takes := some .path },
        { key := .dryRun, short := none, long := "dry-run" },
        { key := .package, short := some 'p', long := "package", takes := some .text },
        { key := .tablesClass, short := none, long := "tables-class", takes := some .text }] }
  | check => { options := commonOptions }
  | inspect => {
      options := commonOptions ++ [
        { key := .format, short := some 'f', long := "format",
          takes := some (.choice formatNames) }]
      argument := some .text }
  | completions => { options := commonOptions, argument := some (.choice shellNames) }

end EntityMapper.CommandLine
