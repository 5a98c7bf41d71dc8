import Probing.Condition.Basic
import Probing.Number.Decimal

/-!
# Describing conditions

A condition in words, one fact a line: when it is met, what the report shows, whether the report
has its label, how large the map is and what happens to the exit status.
-/

namespace Probing.Condition

/-- The names of the fields the report shows, in their order. -/
def fieldNames (report : ReportRequest) : List Text :=
  Text.onlyIf report.showState "state (T/F)"
    ++ Text.onlyIf report.showSuccesses "success count"
    ++ Text.onlyIf report.showFailures "failure count"
    ++ Text.onlyIf report.map.isSome "outcome map"

/-- The line about when the condition is met. -/
def targetLine (condition : Condition) : Text :=
  let count := condition.expect.text
  let outcome : Text :=
    match condition.counting with
    | .success => "successful"
    | .failure => "failed"
  let noun : Text := if condition.expect = .ofNat 1 then "probe" else "probes"
  match condition.location with
  | .sequence => "Met after " ++ count ++ " consecutive " ++ outcome ++ " " ++ noun
  | .cumulative => "Met after " ++ count ++ " " ++ outcome ++ " " ++ noun ++ " in total"

/-- The line about the fields of the report. -/
def fieldsLine (report : ReportRequest) : Text :=
  let names := fieldNames report
  if names = [] then "Report: none" else "Report: " ++ Text.join ", " names

/-- The line about the map. -/
def mapLine (map : MapRequest) : Text :=
  "Map: last " ++ map.maxCapacity.text ++ " outcomes, '" ++ map.glyphs.success ++ "' success, '"
    ++ map.glyphs.failure ++ "' failure"

/-- The line about the exit status. -/
def exitStatusLine (report : ReportRequest) : Text :=
  if report.exitStatus then "Exit status: 0 when met, 1 when not met"
  else "Exit status: unchanged"

/-- The condition in words. -/
def describe (condition : Condition) : List Text :=
  let report := condition.report
  [targetLine condition, fieldsLine report]
    ++ Text.onlyIf (report.hasFields && report.silent) "Report label: suppressed"
    ++ (report.map.map mapLine).toList
    ++ [exitStatusLine report]

end Probing.Condition
