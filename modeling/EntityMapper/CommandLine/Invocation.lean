import EntityMapper.CommandLine.Arguments
import EntityMapper.Report.Generate

/-!
# Invocations

What a call of the program asks for, read from its arguments.
-/
namespace EntityMapper.CommandLine

inductive ReportFormat where
  | text | json
  deriving DecidableEq, Repr

/-- What to do with a manifest. -/
inductive Task where
  | generate (options : GenerateOptions)
  | check
  | inspect (className : Option String) (format : ReportFormat)
  deriving DecidableEq, Repr

inductive Request where
  /-- Carries out a task on the manifest at a path. -/
  | perform (config : String) (task : Task)
  | completions (shell : String)
  | version
  /-- Explains the program, or one command of it. -/
  | help (command : Option CommandName)
  deriving DecidableEq, Repr

/-- The manifest used when none is named. -/
def defaultConfig : String := "rowbind.toml"

def generateOptions (given : Given) : GenerateOptions where
  output := (given.value? .output).getD "."
  dryRun := given.has .dryRun
  package := given.value? .package
  tablesClass := given.value? .tablesClass

def reportFormat (given : Given) : ReportFormat :=
  if given.value? .format = some "json" then .json else .text

/-- The request of a command; a manifest named after the command wins over one before it. -/
def requestOf (command : CommandName) (before given : Given) : Except Misuse Request :=
  let config := ((given.value? .config) <|> (before.value? .config)).getD defaultConfig
  match command with
  | .generate => .ok (.perform config (.generate (generateOptions given)))
  | .check => .ok (.perform config .check)
  | .inspect => .ok (.perform config (.inspect given.argument (reportFormat given)))
  | .completions =>
    match given.argument with
    | some shell => .ok (.completions shell)
    | none => .error .missingArgument

/-- The word that asks for help as a command. -/
def helpWord : String := "help"

/-- The help asked for by the words after `help`: at most one, naming a command or `help`. -/
def helpOn : List String → Except Misuse Request
  | [] => .ok (.help none)
  | word :: rest =>
    match CommandName.ofText? word, rest with
    | some command, [] => .ok (.help (some command))
    | none, [] => if word = helpWord then .ok (.help none) else .error (.unexpected word)
    | _, extra :: _ => .error (.unexpected extra)

/-- The request that ends the reading of a level. -/
def interrupted (command : Option CommandName) : Interruption → Except Misuse Request
  | .help => .ok (.help command)
  | .version => .ok .version
  | .misuse cause => .error cause

/-- What the arguments ask for. -/
def Request.ofArguments (arguments : List String) : Except Misuse Request :=
  let isCommand word := word = helpWord || (CommandName.ofText? word).isSome
  match splitCommand topLevel isCommand {} arguments with
  | .error interruption => interrupted none interruption
  | .ok split =>
    match CommandName.ofText? split.command with
    | none => helpOn split.after
    | some command =>
      match Given.readAll command.level {} split.after with
      | .error interruption => interrupted (some command) interruption
      | .ok given => requestOf command split.before given

end EntityMapper.CommandLine
