import Probing.Condition.Defect
import Probing.Json
import Probing.Number.Decimal
import Probing.Settings

/-!
# Faults

What a user is told when something is wrong with a configuration, a condition, a pattern or the
totals of a probing tool: a message, and for some faults a list of details below it.

## Main definitions

* `Fault`, `Fault.message`: the faults and their messages
* `Notice`, `Notice.text`: a message with its details, as it is shown
* `Fault.unexpected`: the message about a value that is no fault
-/

namespace Probing

/-- A rejected configuration value: where it comes from and what is wrong with it. -/
structure ConfigIssue where
  path : Text
  message : Text
deriving DecidableEq

/-- The fields of a rejected configuration value. -/
def ConfigIssue.json (issue : ConfigIssue) : Json :=
  .object [("path", .text issue.path), ("message", .text issue.message)]

/-- The description of an issue of the environment. -/
def Settings.Issue.describe (issue : Settings.Issue) : ConfigIssue :=
  ⟨issue.variableName.name, issue.message⟩

/-- Something a user has to be told. -/
inductive Fault where
  | configuration (issues : List ConfigIssue)
  /-- A text that is no condition. The position counts from zero and may lie outside the text. -/
  | conditionText (input : Text) (position : Number) (reason : Text)
  /-- Totals that moved by something else than one probe. -/
  | counterJump (deltaSuccess deltaFailure : Number)
  | outcomePattern (pattern : Text) (issues : List Text)
deriving DecidableEq

/-- The fault of a rejected condition. -/
def Condition.Defect.fault (defect : Condition.Defect) : Fault :=
  .conditionText defect.input defect.position defect.reason.message

namespace Fault

/-- The unit of a text at a position, absent outside the text and between two units. -/
def unitAt? (input : Text) (position : Number) : Option CodeUnit :=
  match position.toInt? with
  | some (.ofNat n) => input[n]?
  | _ => none

/-- The column of a position, counted from one. -/
def column (position : Number) : Number :=
  position.add (.ofNat 1)

/-- The message of a fault. -/
def message : Fault → Text
  | configuration _ => "Invalid configuration"
  | conditionText input position reason =>
    "exit condition parsing error '" ++ input ++ "'@" ++ (column position).text ++ ": " ++ reason
  | counterJump deltaSuccess deltaFailure =>
    "Probe counters must advance by exactly one completed probe per evaluation (got "
      ++ deltaSuccess.text ++ " successes, " ++ deltaFailure.text ++ " failures)"
  | outcomePattern pattern _ => "Invalid outcome pattern '" ++ pattern ++ "'"

end Fault

/-- A message with the details shown below it. -/
inductive Notice where
  | plain (message : Text)
  | configuration (message : Text) (issues : List ConfigIssue)
  | pattern (message : Text) (issues : List Text)
deriving DecidableEq

namespace Notice

/-- A detail on a line of its own. -/
def item (detail : Text) : Text :=
  "  - " ++ detail

/-- A notice as it is shown. The details of a configuration stand below an empty line, which is
never followed by nothing. -/
def text : Notice → Text
  | plain message => message
  | configuration message issues =>
    let details :=
      if issues = [] then [item "(no details)"]
      else issues.map fun issue => item (issue.path ++ ": " ++ issue.message)
    message ++ "\n\n" ++ Text.unlines details
  | pattern message issues => message ++ "\n" ++ Text.unlines (issues.map item)

end Notice

namespace Fault

/-- The notice of a fault. -/
def notice (fault : Fault) : Notice :=
  match fault with
  | configuration issues => .configuration fault.message issues
  | outcomePattern _ issues => .pattern fault.message issues
  | conditionText .. | counterJump .. => .plain fault.message

/-- The message about a value that is no fault. -/
def unexpected (value : Json) : Text :=
  "Unexpected value: " ++ value.compact

end Fault

end Probing
