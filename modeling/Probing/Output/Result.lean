import Probing.ExitStatus
import Probing.Output.Style

/-!
# Results of commands

A command answers with a result: it succeeded and may have something to say, it failed, or it has
run probes. The result decides what is written to the two output streams and the exit code. The
report of a probe run is written as it is, since scripts read it; everything else is for people.

## Main definitions

* `Output`, `Output.text`: a message with details and suggestions
* `Result`: what a command answers
* `Result.exitCode`: the final exit code
* `Result.streams`: what is written
-/

namespace Probing

/-- Something to tell a person. -/
structure Output where
  message : Text
  details : Option (List Text) := none
  suggestions : Option (List Text) := none
deriving DecidableEq, Repr

namespace Output

/-- An item of a list. -/
def item (text : Text) : Text :=
  "  • " ++ text

/-- An output as lines of text. Suggestions stand below an empty line and a heading. -/
def text (style : Style) (isError : Bool) (output : Output) : Text :=
  let message :=
    if isError then style.paint .red ("❌ " ++ output.message)
    else style.paint .green output.message
  let details := (output.details.getD []).map fun detail => style.paint .white (item detail)
  let suggestions :=
    match output.suggestions.getD [] with
    | [] => []
    | suggestions =>
      [] :: style.paint .gray "💡 Suggestions:"
        :: suggestions.map fun suggestion => style.paint .gray (item suggestion)
  Text.unlines (message :: details ++ suggestions)

end Output

/-- The kinds of exit of a command that ran no probes. -/
inductive ExitKind where
  | success
  | generalError
  /-- Bad arguments. -/
  | misuse
  /-- A broken contract between the parts of the program. -/
  | internalError
deriving DecidableEq, Repr

/-- The exit code of a kind of exit. -/
def ExitKind.code : ExitKind → Nat
  | success => 0
  | generalError => 1
  | misuse => 2
  | internalError => 3

/-- The end of a probe run. -/
structure ProbeReport where
  /-- The exit code of the probing tool itself. -/
  toolExitCode : Number
  exitStatus : ExitStatus
  /-- The report with its line feed, empty when none was requested. -/
  report : Text
  /-- The slots of the outcome map, if they were asked for. -/
  debugMap : Option Text := none
deriving DecidableEq

/-- What a command answers. -/
inductive Result where
  | success (output : Option Output)
  | failure (exit : ExitKind) (output : Output)
  | probeReport (report : ProbeReport)
deriving DecidableEq

/-- What is written to the two output streams. -/
structure Streams where
  stdout : Text := []
  stderr : Text := []
deriving DecidableEq, Repr

namespace Result

/-- A failure with a message. -/
def fail (exit : ExitKind) (message : Text) (details suggestions : Option (List Text)) : Result :=
  .failure exit { message, details, suggestions }

/-- The final exit code. Only the code of a probe run depends on an exit status. -/
def exitCode : Result → Number
  | success _ => .ofNat 0
  | failure exit _ => exit.code
  | probeReport report => report.exitStatus.resolve report.toolExitCode

/-- The code with which the process has to be ended. A process that succeeds ends by itself. -/
def terminationCode (result : Result) : Option Number :=
  if result.exitCode = .ofNat 0 then none else some result.exitCode

/-- A result as text for people. A probe run has none. -/
def text (style : Style) : Result → Text
  | success none => []
  | success (some output) => output.text style false
  | failure _ output => output.text style true
  | probeReport _ => []

/-- The slots of a map as they are shown. -/
def debugMapText (style : Style) (debugMap : Text) : Text :=
  style.paint .gray debugMap

/-- A text as a line of its own, nothing when it is empty. -/
def lineOf (text : Text) : Text :=
  if text = [] then [] else text ++ "\n"

/-- What a result writes. -/
def streams (style : Style) (result : Result) : Streams :=
  match result with
  | success _ => { stdout := lineOf (result.text style) }
  | failure .. => { stderr := lineOf (result.text style) }
  | probeReport report =>
    { stdout := report.report
      stderr := ((report.debugMap.map fun map => debugMapText style map ++ "\n").getD []) }

end Result

end Probing
