import Probing.CommandLine.Help

/-!
# The commands of the program

The two commands with their flags, the flags that help and version hang on, and the help pages.

## Main definitions

* `Subcommand`, `Subcommand.flags`: the commands and what they are given
* `Subcommand.page`, `page`: the help pages
-/

namespace Probing.CommandLine

/-- The name of the program. -/
def programName : Text := "probecond"

/-- The version of the program. -/
def version : Text := "0.1.0"

/-- What the program is for. -/
def programDescription : Text :=
  "Exit conditions for probing tools: stop on a pattern of replies and losses"

/-- A command of the program. -/
inductive Subcommand where
  | run
  | describe
deriving DecidableEq, Repr

namespace Flag

/-- The condition of a run. -/
def runCondition : Flag where
  short := some "-x"
  long := "--exit-cond"
  placeholder := some "<condition>"
  description := "exit condition, e.g. 3:x, -5s:xN, 10:m(200:.x)"
  required := true

/-- The outcomes of a run. -/
def outcomes : Flag where
  long := "--outcomes"
  placeholder := some "<pattern>"
  description := "probe outcomes, '+' reply and '-' lost, e.g. --outcomes=++-+"
  required := true

/-- The most probes of a run. -/
def count : Flag where
  short := some "-c"
  long := "--count"
  placeholder := some "<n>"
  description := "stop after n probes"

/-- Shows the slots of the map. -/
def debugMap : Flag where
  long := "--debug-map"
  description := "print the raw outcome map with its write position to stderr"

/-- Reports even without requested fields. -/
def forceReport : Flag where
  long := "--force-report"
  description := "print the report label even when the condition requests no field"

/-- The condition to describe. -/
def describedCondition : Flag where
  short := some "-x"
  long := "--exit-cond"
  placeholder := some "<condition>"
  description := "exit condition to explain"
  required := true

/-- Shows the version. -/
def version : Flag where
  short := some "-V"
  long := "--version"
  description := "output the version number"

/-- Shows the help. -/
def help : Flag where
  short := some "-h"
  long := "--help"
  description := "display help for command"

end Flag

namespace Subcommand

/-- Every command. -/
def all : List Subcommand := [run, describe]

/-- The name of a command. -/
def name : Subcommand → Text
  | run => "run"
  | describe => "describe"

/-- What a command does. -/
def description : Subcommand → Text
  | run => "Replay probe outcomes through an exit condition and print its report"
  | describe => "Explain what an exit condition does"

/-- The flags of a command. -/
def flags : Subcommand → List Flag
  | run => [.runCondition, .outcomes, .count, .debugMap, .forceReport]
  | describe => [.describedCondition]

/-- The command with a name. -/
def ofName? (name : Text) : Option Subcommand :=
  all.find? fun command => command.name = name

/-- The help page of a command. -/
def page (command : Subcommand) : Help.Page where
  usage := programName ++ " " ++ command.name ++ " [options]"
  description := command.description
  flags := (command.flags ++ [Flag.help]).map Help.itemOf

end Subcommand

/-- The name of the command that shows help. -/
def helpName : Text := "help"

/-- The help page of the program. -/
def page : Help.Page where
  usage := programName ++ " [options] [command]"
  description := programDescription
  flags := [Help.itemOf .version, Help.itemOf .help]
  commands :=
    Subcommand.all.map (fun command => ⟨command.name ++ " [options]", command.description⟩)
      ++ [⟨helpName ++ " [command]", "display help for command"⟩]

end Probing.CommandLine
