import Probing.Command.Describe
import Probing.CommandLine.Subcommand
import Probing.CommandLine.Suggestion
import Probing.Services

/-!
# The program

The command line of the program: its commands, help and version. Arguments are sorted once for the
program, which knows only the version flag, and what it does not know once more for the command.
Missing values, help, missing flags and unknown flags are answered in this order, and only then is
the environment read.

## Main definitions

* `CommandLine.Exit`: what a run of the program writes and the code it ends with
* `CommandLine.execute`: a run of the program
-/

namespace Probing.CommandLine

/-! ## Answers -/

/-- What a run of the program writes, the code it ends with, and its log. -/
structure Exit where
  streams : Streams
  code : Number
  entries : List Log.Entry := []

namespace Exit

/-- Ends well with a text. -/
def ok (text : Text) : Exit :=
  ⟨{ stdout := text }, .ofNat 0, []⟩

/-- Ends with a text on the error stream. -/
def failed (text : Text) : Exit :=
  ⟨{ stderr := text }, .ofNat 1, []⟩

/-- Ends with an error about the arguments. -/
def usageError (message : Text) : Exit :=
  failed ("error: " ++ message ++ "\n")

/-- Ends with the result of a command. -/
def ofResult (style : Style) (result : Result) (entries : List Log.Entry) : Exit :=
  ⟨result.streams style, result.exitCode, entries⟩

/-- A flag lacks its value. -/
def missingValue (flag : Flag) : Exit :=
  usageError ("option '" ++ flag.term ++ "' argument missing")

/-- A required flag is missing. -/
def missingFlag (flag : Flag) : Exit :=
  usageError ("required option '" ++ flag.term ++ "' not specified")

/-- A flag is unknown to a command with the given flags and to the program. -/
def unknownFlag (flags : List Flag) (given : Text) : Exit :=
  let forms := (flags ++ [Flag.help, Flag.version]).map Flag.long
  usageError ("unknown option '" ++ given ++ "'" ++ Suggestion.forFlag given forms)

/-- A command is unknown. -/
def unknownCommand (given : Text) : Exit :=
  let names := Subcommand.all.map Subcommand.name ++ [helpName]
  usageError ("unknown command '" ++ given ++ "'" ++ Suggestion.forWord given names)

end Exit

/-! ## Running -/

/-- The settings of an environment, or the end of the program when it is rejected. -/
def settingsOf (environment : Environment) (style : Style) : Except Exit Settings :=
  let started := Services.start {} none (some .cli) environment
  match started.2, started.1.settings with
  | .ready, some settings => .ok settings
  | .rejected issues, _ =>
    let notice := (Fault.configuration (issues.map Settings.Issue.describe)).notice
    .error (.ofResult style (.fail .generalError notice.text none none)
      (started.2.entries started.1))
  | .withoutLogger reason, _ => .error (.failed (reason.message ++ "\n"))
  | .ready, none => .error (.failed (Service.settings.missing ++ "\n"))

/-- The log entries that a run writes at the level of its settings. -/
def admittedEntries (settings : Settings) (entries : List Log.Entry) : List Log.Entry :=
  match Log.threshold settings.level with
  | .ok threshold => Log.admitted threshold entries
  | .error _ => []

/-- The request that sorted arguments make of the run command. -/
def runRequest (arguments : Arguments) : Command.RunRequest where
  condition := (arguments.value? .runCondition).getD []
  outcomes := (arguments.value? .outcomes).getD []
  count := (arguments.value? .count).map Number.ofText
  debugMap := (arguments.value? .debugMap).isSome
  forceReport := (arguments.value? .forceReport).isSome

/-- Carries out a command whose arguments are in order. -/
def perform (environment : Environment) (style : Style) (arguments : Arguments) :
    Subcommand → Exit
  | .run =>
    match settingsOf environment style with
    | .error exit => exit
    | .ok settings =>
      match Command.run settings (runRequest arguments) with
      | .error interruption => .failed (interruption.message ++ "\n")
      | .ok ending => .ofResult style ending.result (admittedEntries settings ending.entries)
  | .describe =>
    match settingsOf environment style with
    | .error exit => exit
    | .ok settings =>
      let text := (arguments.value? .describedCondition).getD []
      .ofResult style (Command.describe settings text) []

/-- Help is among arguments that are not known. -/
def asksForHelp (unknown : List Text) : Bool :=
  unknown.any fun argument => (Flag.find? [.help] argument).isSome

/-- Runs a command on the arguments that the program did not know. -/
def dispatch (environment : Environment) (style : Style) (command : Subcommand)
    (unknown : List Text) : Exit :=
  match Arguments.sort command.flags unknown with
  | .error flag => .missingValue flag
  | .ok arguments =>
    let missing :=
      command.flags.find? fun flag => flag.required && (arguments.value? flag).isNone
    if asksForHelp arguments.unknown then .ok command.page.text
    else
      match missing, arguments.unknown with
      | some flag, _ => .missingFlag flag
      | none, given :: _ => .unknownFlag command.flags given
      | none, [] => perform environment style arguments command

/-- Shows the page of a command given by name, the page of the program when none is given. -/
def showHelp : Option Text → Exit
  | none => .ok page.text
  | some name =>
    if name = [] then .ok page.text
    else
      match Subcommand.ofName? name with
      | some command => .ok command.page.text
      | none => .failed page.text

/-- Runs the program on sorted arguments. -/
def executeSorted (environment : Environment) (style : Style) (arguments : Arguments) : Exit :=
  match arguments.operands, arguments.unknown with
  | [], [] => .failed page.text
  | [], given :: rest =>
    if asksForHelp (given :: rest) then .ok page.text else .unknownFlag [] given
  | name :: operands, unknown =>
    match Subcommand.ofName? name with
    | some command => dispatch environment style command unknown
    | none =>
      if name = helpName then showHelp operands.head?
      else if asksForHelp unknown then .ok page.text
      else .unknownCommand name

/-- Runs the program. The version is shown wherever it is asked for, unless `--` stands before. -/
def execute (environment : Environment) (style : Style) (arguments : List Text) : Exit :=
  match Arguments.sort [.version] arguments with
  | .error flag => .missingValue flag
  | .ok sorted =>
    if (sorted.value? .version).isSome then .ok (version ++ "\n")
    else executeSorted environment style sorted

end Probing.CommandLine
