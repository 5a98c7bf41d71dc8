import Probing.ExitStatus
import Probing.OutcomeMap.View

/-!
# Trackers

A tracker follows one run through its exit condition. It is told the totals of transmitted probes
and received replies after every probe and works out the last outcome from the difference with the
totals it knows. Totals that have not moved are reported as unchanged, and totals that differ by
anything but one probe are rejected; neither leaves a trace.

## Main definitions

* `Tracker`, `Tracker.create`: a tracker and its beginning
* `Tracker.update`: the totals after one more probe
* `Tracker.Snapshot`, `Tracker.snapshot`: what a report shows
-/

namespace Probing

/-- Totals of a run as its probing tool counts them. -/
structure Counters where
  transmitted : Number
  received : Number
deriving DecidableEq

/-- What an accepted update says. -/
inductive Evaluation where
  /-- No probe since the last update. -/
  | unchanged (conditionMet : Bool)
  /-- One probe more. `satisfied` tells whether it satisfies the condition, `newlyMet` whether it is
  the first to do so. -/
  | recorded (outcome : Outcome) (satisfied newlyMet conditionMet : Bool)
deriving DecidableEq, Repr

/-- The condition has been met by now. -/
def Evaluation.conditionMet : Evaluation → Bool
  | unchanged met => met
  | recorded _ _ _ met => met

/-- The state of one run. -/
structure Tracker where
  condition : Condition
  /-- The outcome map, if the condition asks for one. -/
  map : Option OutcomeMap
  transmitted : Nat := 0
  received : Nat := 0
  /-- The counted outcomes at the end of the run, followed only for a condition on sequences. -/
  streak : Nat := 0
  met : Bool := false
  status : ExitStatus

namespace Tracker

/-- A tracker before the first probe. The storage is for its map. -/
def create (condition : Condition) (storage : Storage) : Except OutcomeMap.Invalid Tracker :=
  let status := ExitStatus.initial condition.report
  match condition.report.map with
  | none => .ok { condition, map := none, status }
  | some request =>
    match OutcomeMap.create request.maxCapacity request.glyphs storage with
    | .error reason => .error reason
    | .ok map => .ok { condition, map := some map, status }

/-- The replies so far. -/
def successes (tracker : Tracker) : Nat :=
  tracker.received

/-- The lost probes so far. -/
def failures (tracker : Tracker) : Nat :=
  tracker.transmitted - tracker.received

/-! ## Updates -/

/-- What happens inside a tracker. -/
inductive Event where
  | map (event : OutcomeMap.Event)
  | jumped (counters : Counters) (deltaSuccess deltaFailure : Number)
  | conditionMet (expect : Number) (successes failures : Nat)
deriving DecidableEq

/-- The answer to an update. -/
inductive Answer where
  | evaluated (evaluation : Evaluation)
  /-- The totals moved by something else than one probe. -/
  | violation (deltaSuccess deltaFailure : Number)
  /-- The source of slots failed before the condition was evaluated. -/
  | interrupted (reason : Text)
deriving DecidableEq

/-- The tracker after an update, the answer, and what happened on the way. -/
structure Step where
  tracker : Tracker
  answer : Answer
  events : List Event := []

/-- The outcome of the one probe by which totals moved, if it was one. -/
def singleStep? (deltaSuccess deltaFailure : Number) : Option Outcome :=
  if deltaSuccess = .ofNat 1 ∧ deltaFailure = .ofNat 0 then some .success
  else if deltaSuccess = .ofNat 0 ∧ deltaFailure = .ofNat 1 then some .failure
  else none

/-- The tracker with the totals of one more probe. -/
def count (tracker : Tracker) : Outcome → Tracker
  | .success =>
    { tracker with transmitted := tracker.transmitted + 1, received := tracker.received + 1 }
  | .failure => { tracker with transmitted := tracker.transmitted + 1 }

/-- The length of the run of counted outcomes that ends with `outcome`. -/
def extendStreak (tracker : Tracker) (outcome : Outcome) : Nat :=
  if outcome = tracker.condition.counting then tracker.streak + 1 else 0

/-- The total of counted outcomes. -/
def countedTotal (tracker : Tracker) : Nat :=
  match tracker.condition.counting with
  | .success => tracker.successes
  | .failure => tracker.failures

/-- Evaluates the condition at an outcome already counted. A sequence satisfies it when its length
is reached exactly, a total from then on. -/
def evaluate (tracker : Tracker) (outcome : Outcome) : Step :=
  let tracker :=
    match tracker.condition.location with
    | .sequence => { tracker with streak := tracker.extendStreak outcome }
    | .cumulative => tracker
  let expect := tracker.condition.expect
  let satisfied :=
    match tracker.condition.location with
    | .sequence => decide (Number.ofNat tracker.streak = expect)
    | .cumulative => expect.ble tracker.countedTotal
  if satisfied && !tracker.met then
    { tracker := { tracker with met := true, status := tracker.status.markMet }
      answer := .evaluated (.recorded outcome true true true)
      events := [.conditionMet expect tracker.successes tracker.failures] }
  else
    { tracker, answer := .evaluated (.recorded outcome satisfied false tracker.met) }

/-- Records an outcome: counts it, enters it into the map and evaluates the condition. If the map
fails, the outcome stays counted and the condition is not evaluated. -/
def record (tracker : Tracker) (outcome : Outcome) : Step :=
  let counted := tracker.count outcome
  match counted with
  | { condition, map := some map, transmitted, received, streak, met, status } =>
    let entered := map.record outcome
    let events := entered.events.map Event.map
    let tracker : Tracker :=
      { condition, map := some entered.map, transmitted, received, streak, met, status }
    match entered.failure with
    | some reason => { tracker, answer := .interrupted reason, events }
    | none =>
      let step := tracker.evaluate outcome
      { step with events := events ++ step.events }
  | counted => counted.evaluate outcome

/-- Tells the tracker the totals after another probe. -/
def update (tracker : Tracker) (counters : Counters) : Step :=
  let deltaSuccess := counters.received.sub tracker.received
  let deltaFailure := (counters.transmitted.sub tracker.transmitted).sub deltaSuccess
  if deltaSuccess = .ofNat 0 ∧ deltaFailure = .ofNat 0 then
    { tracker, answer := .evaluated (.unchanged tracker.met) }
  else
    match singleStep? deltaSuccess deltaFailure with
    | some outcome => tracker.record outcome
    | none =>
      { tracker
        answer := .violation deltaSuccess deltaFailure
        events := [.jumped counters deltaSuccess deltaFailure] }

/-- The totals a probing tool tells after one more probe with the given outcome. -/
def nextCounters (tracker : Tracker) : Outcome → Counters
  | .success => ⟨.ofNat (tracker.transmitted + 1), .ofNat (tracker.received + 1)⟩
  | .failure => ⟨.ofNat (tracker.transmitted + 1), .ofNat tracker.received⟩

/-! ## Snapshots -/

/-- What a report can show of a run. -/
structure Snapshot where
  request : ReportRequest
  successes : Number
  failures : Number
  conditionMet : Bool
  /-- The contents of the map, if there is one. -/
  map : Option Text
deriving DecidableEq

/-- The present snapshot of a run. -/
def snapshot (tracker : Tracker) : Snapshot where
  request := tracker.condition.report
  successes := tracker.successes
  failures := tracker.failures
  conditionMet := tracker.met
  map := tracker.map.map OutcomeMap.render

end Tracker

end Probing
