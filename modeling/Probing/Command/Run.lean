import Probing.Condition.Reader
import Probing.Fault
import Probing.Log.Journal
import Probing.Outcome.Pattern
import Probing.Output.Result

/-!
# The run command

Replays a pattern of outcomes through a condition and reports. The condition is read before the
pattern, and the pattern before the count; the first that is wrong is the answer.

## Main definitions

* `Command.RunRequest`: what the command is given
* `Command.run`: the command
-/

namespace Probing.Command

/-- The arguments of the run command. -/
structure RunRequest where
  condition : Text
  outcomes : Text
  /-- The most probes to run. -/
  count : Option Number := none
  /-- Show the slots of the outcome map. -/
  debugMap : Bool := false
  /-- Report even when the condition requests no field. -/
  forceReport : Bool := false
deriving DecidableEq

/-- What stops a command without a result. -/
inductive Interruption where
  | map (reason : OutcomeMap.Invalid)
  | storage (reason : Text)
deriving DecidableEq

/-- The wording of an interruption. -/
def Interruption.message : Interruption → Text
  | map reason => reason.message
  | storage reason => reason

/-- A result and the log entries made on the way to it. -/
structure Ending where
  result : Result
  entries : List Log.Entry := []

/-- How conditions are written, for those who got it wrong. -/
def conditionHelp : List Text :=
  ["Syntax: [-]<count>[s][:<options>]",
    "Options: x (exit status), n/+n/-n (one count), N (both counts), "
      ++ "m[(<size>[:<success><failure>])] (map), q (no label), c (T/F state)"]

/-- The failure of a command whose condition is rejected. -/
def conditionFailure (defect : Condition.Defect) : Result :=
  .fail .misuse defect.fault.message none (some conditionHelp)

/-- The failure of a run whose pattern is rejected. -/
def patternFailure (pattern : Text) (issues : List Outcome.Pattern.Issue) : Result :=
  let messages := issues.map Outcome.Pattern.Issue.message
  .fail .misuse (Fault.outcomePattern pattern messages).message (some messages)
    (some ["Use '+' for a reply and '-' for a lost probe, e.g. --outcomes=++-+"])

/-- The failure of a run whose count is no positive integer. -/
def countFailure (count : Number) : Result :=
  .fail .misuse ("Invalid probe count: " ++ count.text) none
    (some ["Pass a positive integer to --count"])

/-- The given count, when it is one that cannot be counted up to. -/
def invalidCount? (count : Option Number) : Option Number :=
  count.filter fun n => n.positiveInteger?.isNone

/-- The components that speak in the log of a run. -/
def voices : Log.Voices where
  tracker := some "exit-condition"
  session := some "run"

/-- The storage that settings prescribe for maps. -/
def storageOf (settings : Settings) : Storage where
  initialCeiling := settings.initialCeiling
  growthStep := settings.growthStep

/-- The slots of the map of a run. -/
def debugMapOf (tracker : Tracker) : Text :=
  match tracker.map with
  | some map => map.renderSlots
  | none => "(no outcome map requested)"

/-- The report of a run that ended regularly. -/
def probeReport (settings : Settings) (request : RunRequest) (tracker : Tracker)
    (summary : Session.Summary) : ProbeReport where
  toolExitCode := Session.toolExitCode summary
  exitStatus := tracker.status
  report := Report.line settings.label request.forceReport tracker.snapshot
  debugMap := if request.debugMap then some (debugMapOf tracker) else none

/-- Replays outcomes through a condition on a fresh tracker. -/
def replay (settings : Settings) (request : RunRequest) (condition : Condition)
    (outcomes : List Outcome) : Except Interruption Ending :=
  match Tracker.create condition (storageOf settings) with
  | .error reason => .error (.map reason)
  | .ok tracker =>
    let session := Session.replay tracker request.count outcomes
    let entries := session.events.toList.map (Session.Event.entry voices)
    match session.result with
    | .finished summary =>
      .ok ⟨.probeReport (probeReport settings request session.tracker summary), entries⟩
    | .violation deltaSuccess deltaFailure =>
      let fault := Fault.counterJump deltaSuccess deltaFailure
      .ok ⟨.fail .internalError fault.message none none, entries⟩
    | .interrupted reason => .error (.storage reason)

/-- The run command. -/
def run (settings : Settings) (request : RunRequest) : Except Interruption Ending :=
  match Condition.parse settings.defaultCapacity request.condition with
  | .error defect => .ok ⟨conditionFailure defect, []⟩
  | .ok condition =>
    match Outcome.Pattern.read request.outcomes with
    | .error issues => .ok ⟨patternFailure request.outcomes issues, []⟩
    | .ok outcomes =>
      match invalidCount? request.count with
      | some count => .ok ⟨countFailure count, []⟩
      | none => replay settings request condition outcomes

end Probing.Command
