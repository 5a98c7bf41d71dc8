import Probing.Number.Decimal
import Probing.Tracker

/-!
# Reports

The report of a run is one line for scripts: a label and a colon, then the requested fields in the
order state, successes, failures, map, with slashes between them.

## Main definitions

* `Report.fields`: the fields of a snapshot
* `Report.line`: the report, empty when nothing was requested
-/

namespace Probing.Report

/-- The label of reports for which none was chosen. -/
def standardLabel : Text := "exit-cond"

/-- The fields of a report. The map is shown whenever the snapshot has one. -/
def fields (snapshot : Tracker.Snapshot) : List Text :=
  let request := snapshot.request
  Text.onlyIf request.showState (if snapshot.conditionMet then "T" else "F")
    ++ Text.onlyIf request.showSuccesses snapshot.successes.text
    ++ Text.onlyIf request.showFailures snapshot.failures.text
    ++ snapshot.map.toList

/-- What stands in front of the fields. -/
def heading (request : ReportRequest) (label : Text) : Text :=
  if request.silent then [] else label ++ ":"

/-- The report of a snapshot. Without any requested field it is empty, unless it is forced. -/
def line (label : Text) (force : Bool) (snapshot : Tracker.Snapshot) : Text :=
  if !force && !snapshot.request.hasFields then []
  else heading snapshot.request label ++ Text.join "/" (fields snapshot) ++ "\n"

end Probing.Report
