import EntityMapper.CommandLine.Grammar

/-!
# Usage

The texts that explain the program, made from its grammar.
-/
namespace EntityMapper.CommandLine

def programName : String := "rowbind"

def versionText : String := programName ++ " 0.3.0"

def purpose : String := "Generate record/entity mapping code from entity metadata"

def CommandName.purpose : CommandName → String
  | generate => "Generate mapper sources for every mapped entity"
  | check => "Validate rowbind.toml and build every table without writing code"
  | inspect => "Print the extracted schemas, tables and columns"
  | completions => "Generate shell completions"

def OptionSpec.usage (spec : OptionSpec) : String :=
  (match spec.short with
    | some letter => "-" ++ String.ofList [letter] ++ ", "
    | none => "")
    ++ "--" ++ spec.long
    ++ (match spec.takes with
        | some (.choice words) => " " ++ Text.joinWith "|" words
        | some _ => " VALUE"
        | none => "")

/-- The lines that explain the program or one of its commands. -/
def usage : Option CommandName → List String
  | none =>
    [purpose, "", "Usage: " ++ programName ++ " [OPTIONS] COMMAND", "", "Commands:"]
      ++ CommandName.all.map (fun command => "  " ++ command.text ++ ": " ++ command.purpose)
      ++ ["", "Options:"] ++ topLevel.options.map (fun spec => "  " ++ spec.usage)
  | some command =>
    [command.purpose, "", "Usage: " ++ programName ++ " " ++ command.text ++ " [OPTIONS]"
      ++ (if command.level.argument.isSome then " [ARGUMENT]" else ""), "", "Options:"]
      ++ command.level.options.map (fun spec => "  " ++ spec.usage)

/-- A script that teaches a shell the commands. -/
def completionScript (shell : String) : String :=
  let words := Text.joinWith " " (CommandName.all.map (·.text))
  if shell = "bash" then "complete -W '" ++ words ++ "' " ++ programName
  else if shell = "zsh" then "compctl -k '(" ++ words ++ ")' " ++ programName
  else if shell = "fish" then "complete -c " ++ programName ++ " -f -a '" ++ words ++ "'"
  else if shell = "elvish" then
    "set edit:completion:arg-completer[" ++ programName ++ "] = \x7b|@words| put " ++ words
      ++ " \x7d"
  else
    "Register-ArgumentCompleter -Native -CommandName " ++ programName
      ++ " -ScriptBlock \x7b -split '" ++ words ++ "' \x7d"

end EntityMapper.CommandLine
