import Probing.Number.Basic
import Probing.Outcome.Basic
import Probing.Text.Basic

/-!
# Exit conditions

An exit condition says how many probes of one outcome end a run, whether they have to follow one
another, and what is reported at the end.

## Main definitions

* `Location`, `Glyphs`, `MapRequest`, `ReportRequest`, `Condition`: the parts of a condition
* `ReportOption`, `ReportOption.apply`: one option and its effect on the report
* `ReportRequest.hasFields`: whether the report has anything to show
-/

namespace Probing

/-- Where the counted outcomes have to lie. -/
inductive Location where
  /-- Anywhere in the run. -/
  | cumulative
  /-- One directly after the other. -/
  | sequence
deriving DecidableEq, Repr, Inhabited

/-- What an outcome map writes for each outcome. -/
structure Glyphs where
  success : Text
  failure : Text
deriving DecidableEq, Repr, Inhabited

namespace Glyphs

/-- The glyphs of a map for which none were chosen. -/
def standard : Glyphs := ⟨"+", "-"⟩

/-- The glyph of an outcome. -/
def ofOutcome (glyphs : Glyphs) : Outcome → Text
  | .success => glyphs.success
  | .failure => glyphs.failure

end Glyphs

/-- A requested outcome map: how many outcomes it may hold and how they are written. -/
structure MapRequest where
  maxCapacity : Number
  glyphs : Glyphs
deriving DecidableEq

/-- What a condition asks of the end of a run. -/
structure ReportRequest where
  /-- The exit status tells whether the condition was met. -/
  exitStatus : Bool := false
  showSuccesses : Bool := false
  showFailures : Bool := false
  /-- Report whether the condition was met. -/
  showState : Bool := false
  /-- Leave out the label in front of the report. -/
  silent : Bool := false
  map : Option MapRequest := none
deriving DecidableEq, Inhabited

/-- The report has at least one field. -/
def ReportRequest.hasFields (report : ReportRequest) : Bool :=
  report.showState || report.showSuccesses || report.showFailures || report.map.isSome

/-- An exit condition. -/
structure Condition where
  /-- The text it was read from. -/
  source : Text
  /-- How many outcomes it waits for. -/
  expect : Number
  /-- The outcome it counts. -/
  counting : Outcome
  location : Location
  report : ReportRequest
deriving DecidableEq, Inhabited

namespace Condition

/-- The capacity of a map for which no size was given. -/
def standardCapacity : Nat := 100

end Condition

/-- One option behind the colon of a condition. -/
inductive ReportOption where
  | exitStatus
  | count (shown : Outcome)
  | bothCounts
  | map (request : MapRequest)
  | silent
  | state
deriving DecidableEq

/-- The report with one more option. A second map replaces the first. -/
def ReportOption.apply (report : ReportRequest) : ReportOption → ReportRequest
  | exitStatus => { report with exitStatus := true }
  | count .success => { report with showSuccesses := true }
  | count .failure => { report with showFailures := true }
  | bothCounts => { report with showSuccesses := true, showFailures := true }
  | map request => { report with map := some request }
  | silent => { report with silent := true }
  | state => { report with showState := true }

end Probing
