import Probing.Log.Entry
import Probing.Session

/-!
# What a run logs

The entries for the events of an outcome map, a tracker and a session, with the fields each of them
shows.

## Main definitions

* `OutcomeMap.Event.entry`, `Tracker.Event.entry`, `Session.Event.entry`: the entry of an event
* `Log.Voices`: the components that speak in a session
-/

namespace Probing

/-- The name of an outcome in entries. -/
def Outcome.name : Outcome → Text
  | success => "success"
  | failure => "failure"

/-- The name of a reason to stop in entries. -/
def Session.StopReason.name : Session.StopReason → Text
  | conditionMet => "condition_met"
  | countReached => "count_reached"
  | outcomesExhausted => "outcomes_exhausted"

/-- The fields of an evaluation. -/
def Evaluation.json : Evaluation → Json
  | unchanged met => .object [("kind", .text "unchanged"), ("conditionMet", .bool met)]
  | recorded outcome satisfied newlyMet met =>
    .object [("kind", .text "recorded"), ("outcome", .text outcome.name),
      ("satisfied", .bool satisfied), ("newlyMet", .bool newlyMet), ("conditionMet", .bool met)]

/-- The fields of a pair of totals. -/
def Counters.json (counters : Counters) : Json :=
  .object [("transmitted", .number counters.transmitted), ("received", .number counters.received)]

/-- The entry of a storage event. -/
def OutcomeMap.Event.entry : OutcomeMap.Event → Log.Entry
  | allocated capacity maxCapacity =>
    { level := .debug
      fields := [("capacity", .number capacity), ("maxCapacity", .number maxCapacity)]
      message := some (.text "Allocated outcome map") }
  | allocationRefused reason capacity =>
    { level := .warn
      fields := [Log.refusalField reason, ("capacity", .number capacity)]
      message := some (.text "Outcome map allocation failed, map recording disabled") }
  | extended before after maxCapacity =>
    { level := .debug
      fields := [("from", .number before), ("to", .number after),
        ("maxCapacity", .number maxCapacity)]
      message := some (.text "Extended outcome map") }
  | growthRefused reason capacity requested =>
    { level := .warn
      fields := [Log.refusalField reason, ("capacity", .number capacity),
        ("requested", .number requested)]
      message := some (.text "Outcome map growth failed, keeping current capacity") }

/-- The entry of a tracker event. -/
def Tracker.Event.entry : Tracker.Event → Log.Entry
  | map event => event.entry
  | jumped counters deltaSuccess deltaFailure =>
    { level := .error
      fields := [("counters", counters.json), ("deltaSuccess", .number deltaSuccess),
        ("deltaFailure", .number deltaFailure)]
      message := some (.text "Probe counters advanced by more than one probe") }
  | conditionMet expect successes failures =>
    { level := .debug
      fields := [("expect", .number expect), ("successes", .number successes),
        ("failures", .number failures)]
      message := some (.text "Exit condition met") }

namespace Log

/-- The components named in the entries of a session. -/
structure Voices where
  tracker : Option Text := none
  session : Option Text := none

end Log

/-- The entry of a session event. -/
def Session.Event.entry (voices : Log.Voices) : Session.Event → Log.Entry
  | tracker event => { event.entry with component := voices.tracker }
  | evaluated number outcome evaluation =>
    { level := .trace
      component := voices.session
      fields := [("seq", .number number), ("outcome", .text outcome.name),
        ("evaluation", evaluation.json)]
      message := some (.text "Probe evaluated") }
  | finished summary =>
    { level := .debug
      component := voices.session
      fields := [("transmitted", .number summary.transmitted),
        ("received", .number summary.received), ("stoppedBy", .text summary.stoppedBy.name)]
      message := some (.text "Probe session finished") }

end Probing
