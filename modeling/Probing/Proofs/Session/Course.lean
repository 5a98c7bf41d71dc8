import Probing.Proofs.Tracker.Records
import Probing.Session

/-!
# The course of a session

A session is a sequence of records: the tracker it leaves behind has recorded a prefix of the
outcomes and nothing else, and the reason it gives can be read off that tracker and its limit.
Before each outcome of that prefix the session had to go on, and after the last it had to end.

## Main definitions

* `Session.InStep`: the totals of a session are those of its tracker
* `Session.reasonFor`: the reason that fits the end of a session
* `Session.Course`: a session that ran through a prefix of its outcomes

## Main results

* `Session.replayFrom_course`: every session has a course
-/

namespace Probing.Session

/-! ## A session is a sequence of records -/

/-- The totals of a session are those of its tracker. -/
def InStep (tracker : Tracker) (transmitted received : Nat) : Prop :=
  tracker.transmitted = transmitted ∧ tracker.received = received

/-- The reason that fits the end of a session: the condition first, then the limit. -/
def reasonFor (limit : Option Number) (met : Bool) (transmitted : Nat) : StopReason :=
  if met then .conditionMet
  else if limitReached limit transmitted then .countReached
  else .outcomesExhausted

/-- What is counted on for one more outcome. -/
def countOn (received : Nat) (outcome : Outcome) : Nat :=
  if outcome = .success then received + 1 else received

theorem countOn_add (received : Nat) (outcome : Outcome) (outcomes : List Outcome) :
    countOn received outcome + outcomes.count .success =
      received + (outcome :: outcomes).count .success := by
  unfold countOn
  cases outcome <;> simp
  omega

theorem countOn_count (history : List Outcome) (outcome : Outcome) :
    countOn (history.count .success) outcome = (history ++ [outcome]).count .success := by
  unfold countOn
  cases outcome <;> simp

variable {tracker : Tracker} {transmitted received : Nat}

/-- A session that has replayed a history is in step with its recount. -/
theorem InStep.of_recount {condition : Condition} {expect : Nat} {history : List Outcome}
    (h : Tracker.Recount condition expect history tracker) :
    InStep tracker history.length (history.count .success) :=
  ⟨h.transmitted_eq, h.received_eq⟩

/-- The totals a session tells after one more probe are one record away from those of its
tracker. -/
theorem InStep.update (h : InStep tracker transmitted received) (outcome : Outcome) :
    tracker.update ⟨.ofNat (transmitted + 1), .ofNat (countOn received outcome)⟩ =
      tracker.record outcome := by
  have hmoved : tracker.MovedTo (transmitted + 1 : Nat) (countOn received outcome : Nat)
      outcome := by
    cases outcome <;> simp [Tracker.MovedTo, countOn, h.1, h.2]
  exact Tracker.update_of_moved hmoved

/-- A record moves the totals of the tracker by its outcome. -/
theorem InStep.record (h : InStep tracker transmitted received) (outcome : Outcome) :
    InStep (tracker.record outcome).tracker (transmitted + 1) (countOn received outcome) := by
  obtain ⟨htransmitted, hreceived⟩ := Tracker.record_totals tracker outcome
  rw [InStep, htransmitted, hreceived]
  cases outcome <;> simp [Tracker.count, countOn, h.1, h.2]

/-- One probe of a session within its limit, if the source of slots takes its outcome in: the session
ends if the condition is met by now. -/
theorem replayFrom_cons_of_evaluated {limit : Option Number} {outcome : Outcome}
    {evaluation : Evaluation} (hlimit : limitReached limit transmitted = false)
    (hsync : InStep tracker transmitted received)
    (hanswer : (tracker.record outcome).answer = .evaluated evaluation) (rest : List Outcome)
    (events : Array Event) :
    ∃ events', replayFrom limit tracker events transmitted received (outcome :: rest) =
      if evaluation.conditionMet then
        finish (tracker.record outcome).tracker events'
          ⟨transmitted + 1, countOn received outcome, .conditionMet⟩
      else
        replayFrom limit (tracker.record outcome).tracker events' (transmitted + 1)
          (countOn received outcome) rest := by
  have hupdate := hsync.update outcome
  rw [countOn] at hupdate
  rw [replayFrom, hlimit, if_neg Bool.false_ne_true]
  simp only [hupdate, hanswer]
  exact ⟨_, rfl⟩

/-- One probe of a session whose source of slots never fails. -/
theorem replayFrom_cons {limit : Option Number} (hlimit : limitReached limit transmitted = false)
    (hsync : InStep tracker transmitted received) (hsteady : tracker.Steady) (outcome : Outcome)
    (rest : List Outcome) (events : Array Event) :
    ∃ events', replayFrom limit tracker events transmitted received (outcome :: rest) =
      if (tracker.record outcome).tracker.met then
        finish (tracker.record outcome).tracker events'
          ⟨transmitted + 1, countOn received outcome, .conditionMet⟩
      else
        replayFrom limit (tracker.record outcome).tracker events' (transmitted + 1)
          (countOn received outcome) rest := by
  obtain ⟨satisfied, newlyMet, hanswer⟩ := Tracker.record_answer hsteady outcome
  exact replayFrom_cons_of_evaluated hlimit hsync hanswer rest events

/-- One probe of a session whose source of slots fails. -/
theorem replayFrom_cons_of_interrupted {limit : Option Number} {outcome : Outcome} {reason : Text}
    (hlimit : limitReached limit transmitted = false)
    (hsync : InStep tracker transmitted received)
    (hanswer : (tracker.record outcome).answer = .interrupted reason) (rest : List Outcome)
    (events : Array Event) :
    (replayFrom limit tracker events transmitted received (outcome :: rest)).result =
      .interrupted reason := by
  have hupdate := hsync.update outcome
  rw [countOn] at hupdate
  rw [replayFrom, hlimit, if_neg Bool.false_ne_true]
  simp only [hupdate, hanswer]

/-- A session that ends regularly has had no fewer probes than it began with. -/
theorem le_of_replayFrom_eq_finished {limit : Option Number} {outcomes : List Outcome}
    {summary : Summary} {events : Array Event}
    (h : (replayFrom limit tracker events transmitted received outcomes).result =
      .finished summary) :
    transmitted ≤ summary.transmitted := by
  induction outcomes generalizing tracker events transmitted received with
  | nil =>
    obtain rfl := Result.finished.inj h
    exact Nat.le_refl _
  | cons outcome rest ih =>
    rw [replayFrom] at h
    split at h
    · obtain rfl := Result.finished.inj h
      exact Nat.le_refl _
    · dsimp only at h
      split at h
      · cases h
      · cases h
      · split at h
        · obtain rfl := Result.finished.inj h
          exact Nat.le_succ _
        · exact (Nat.le_succ _).trans (ih h)

/-- A session ran through the first `stop` outcomes, and ended with a reason that fits. -/
structure Course (limit : Option Number) (tracker : Tracker) (transmitted received : Nat)
    (outcomes : List Outcome) (stop : Nat) (ending : Ending) : Prop where
  stop_le : stop ≤ outcomes.length
  tracker_eq : ending.tracker = tracker.recordAll (outcomes.take stop)
  result_eq : ending.result = .finished
    ⟨transmitted + stop, received + (outcomes.take stop).count .success,
      reasonFor limit ending.tracker.met (transmitted + stop)⟩
  /-- Before each of the outcomes the condition is unmet and the limit not reached. -/
  goes_on : ∀ k < stop, (tracker.recordAll (outcomes.take k)).met = false ∧
    limitReached limit (transmitted + k) = false
  /-- After the last of them there is a reason to end. -/
  ends : ending.tracker.met = true ∨ limitReached limit (transmitted + stop) = true ∨
    stop = outcomes.length

/-- A session that ends at once. -/
theorem Course.zero {limit : Option Number} {outcomes : List Outcome} (events : Array Event)
    (hends : tracker.met = true ∨ limitReached limit transmitted = true ∨ outcomes = []) :
    Course limit tracker transmitted received outcomes 0
      (finish tracker events ⟨transmitted, received, reasonFor limit tracker.met transmitted⟩) where
  stop_le := Nat.zero_le _
  tracker_eq := rfl
  result_eq := rfl
  goes_on := fun k hk => absurd hk (Nat.not_lt_zero k)
  ends := hends.imp_right (Or.imp_right fun hnil => by rw [hnil]; rfl)

/-- A session that goes on with one outcome. -/
theorem Course.cons {limit : Option Number} {outcome : Outcome} {rest : List Outcome} {stop : Nat}
    {ending : Ending} (hunmet : tracker.met = false)
    (hlimit : limitReached limit transmitted = false)
    (h : Course limit (tracker.record outcome).tracker (transmitted + 1)
      (countOn received outcome) rest stop ending) :
    Course limit tracker transmitted received (outcome :: rest) (stop + 1) ending := by
  have hnext (n : Nat) : transmitted + 1 + n = transmitted + (n + 1) := by omega
  refine ⟨Nat.succ_le_succ h.stop_le, h.tracker_eq, ?_, ?_, ?_⟩
  · rw [h.result_eq, countOn_add, hnext, List.take_succ_cons]
  · intro k hk
    cases k with
    | zero => exact ⟨hunmet, hlimit⟩
    | succ k =>
      rw [List.take_succ_cons, Tracker.recordAll_cons, ← hnext]
      exact h.goes_on k (Nat.lt_of_succ_lt_succ hk)
  · rw [← hnext, List.length_cons, Nat.succ_inj]
    exact h.ends

/-- **Every session has a course**, if the source of slots never fails. -/
theorem replayFrom_course (limit : Option Number) (outcomes : List Outcome) :
    ∀ {tracker : Tracker} {transmitted received : Nat} (events : Array Event),
      InStep tracker transmitted received → tracker.Steady → tracker.met = false →
      ∃ stop, Course limit tracker transmitted received outcomes stop
        (replayFrom limit tracker events transmitted received outcomes) := by
  -- Induction on the outcomes left. The condition is unmet before each of them.
  induction outcomes with
  | nil =>
    intro tracker transmitted received events hsync hsteady hunmet
    refine ⟨0, ?_⟩
    have hcourse : Course limit tracker transmitted received [] 0 _ :=
      .zero events (.inr (.inr rfl))
    rwa [hunmet] at hcourse
  | cons outcome rest ih =>
    intro tracker transmitted received events hsync hsteady hunmet
    cases hlimit : limitReached limit transmitted with
    | true =>
      have hreason : reasonFor limit tracker.met transmitted = .countReached := by
        simp [reasonFor, hunmet, hlimit]
      rw [replayFrom, if_pos hlimit, ← hreason]
      exact ⟨0, .zero events (.inr (.inl hlimit))⟩
    | false =>
      obtain ⟨events', hending⟩ := replayFrom_cons hlimit hsync hsteady outcome rest events
      rw [hending]
      split
      · next hmet =>
        have hreason : reasonFor limit (tracker.record outcome).tracker.met (transmitted + 1) =
            .conditionMet := if_pos hmet
        rw [← hreason]
        exact ⟨1, .cons hunmet hlimit (.zero events' (.inl hmet))⟩
      · next hmet =>
        obtain ⟨stop, hcourse⟩ := ih events' (hsync.record outcome) (hsteady.record outcome)
          (Bool.eq_false_iff.mpr hmet)
        exact ⟨stop + 1, .cons hunmet hlimit hcourse⟩

end Probing.Session
