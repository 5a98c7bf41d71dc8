import Probing.Tracker

/-!
# Probe sessions

A session replays a list of outcomes as a probing tool would produce them: it counts its own probes
from zero, tells the tracker after each one, and ends when the condition is met, when its count is
reached, or when the outcomes run out.

## Main definitions

* `Session.replay`: a session on a tracker
* `Session.toolExitCode`: the exit code of the probing tool itself
-/

namespace Probing.Session

/-- Why a session ended. -/
inductive StopReason where
  | conditionMet
  | countReached
  | outcomesExhausted
deriving DecidableEq, Repr

/-- The totals of a session and why it ended. -/
structure Summary where
  transmitted : Nat
  received : Nat
  stoppedBy : StopReason
deriving DecidableEq, Repr

/-- What happens in a session. -/
inductive Event where
  | tracker (event : Tracker.Event)
  | evaluated (number : Nat) (outcome : Outcome) (evaluation : Evaluation)
  | finished (summary : Summary)
deriving DecidableEq

/-- How a session went. -/
inductive Result where
  | finished (summary : Summary)
  /-- The tracker rejected the totals of a probe. -/
  | violation (deltaSuccess deltaFailure : Number)
  /-- The source of slots for the map failed. -/
  | interrupted (reason : Text)
deriving DecidableEq

/-- The end of a session: the tracker as it was left, the result and the events in order. -/
structure Ending where
  tracker : Tracker
  result : Result
  events : Array Event

/-- The session has had as many probes as it was allowed. -/
def limitReached (limit : Option Number) (transmitted : Nat) : Bool :=
  match limit with
  | some count => count.ble transmitted
  | none => false

/-- Ends a session regularly. -/
def finish (tracker : Tracker) (events : Array Event) (summary : Summary) : Ending :=
  { tracker, result := .finished summary, events := events.push (.finished summary) }

/-- Replays outcomes after `transmitted` probes with `received` replies. -/
def replayFrom (limit : Option Number) (tracker : Tracker) (events : Array Event)
    (transmitted received : Nat) : List Outcome → Ending
  | [] =>
    let reason :=
      if limitReached limit transmitted then StopReason.countReached
      else StopReason.outcomesExhausted
    finish tracker events ⟨transmitted, received, reason⟩
  | outcome :: rest =>
    if limitReached limit transmitted then
      finish tracker events ⟨transmitted, received, .countReached⟩
    else
      let transmitted := transmitted + 1
      let received := if outcome = .success then received + 1 else received
      let step := tracker.update ⟨.ofNat transmitted, .ofNat received⟩
      let events := events ++ (step.events.map Event.tracker).toArray
      match step.answer with
      | .violation deltaSuccess deltaFailure =>
        { tracker := step.tracker, result := .violation deltaSuccess deltaFailure, events }
      | .interrupted reason => { tracker := step.tracker, result := .interrupted reason, events }
      | .evaluated evaluation =>
        let events := events.push (.evaluated transmitted outcome evaluation)
        if evaluation.conditionMet then
          finish step.tracker events ⟨transmitted, received, .conditionMet⟩
        else replayFrom limit step.tracker events transmitted received rest

/-- Replays outcomes on a tracker, at most `limit` of them. -/
def replay (tracker : Tracker) (limit : Option Number) (outcomes : List Outcome) : Ending :=
  replayFrom limit tracker #[] 0 0 outcomes

/-- The exit code of the probing tool: zero when at least one reply came back. -/
def toolExitCode (summary : Summary) : Nat :=
  if 0 < summary.received then 0 else 1

end Probing.Session
