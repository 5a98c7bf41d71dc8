import Probing.Proofs.Condition.Satisfaction
import Probing.Proofs.Tracker.Update

/-!
# A tracker is a recount

A tracker that is told whole totals in any order, right or wrong, knows at every moment what a
recount of the outcomes it has recorded would say.

## Main definitions

* `Tracker.Recount`: the state of a tracker is the recount of a history
* `Condition.verdict`: what is to be said about the last outcome of a history
* `Tracker.Told`, `Tracker.follow`: a run of updates and its answers

## Main results

* `Tracker.Recount.record`: one record
* `Tracker.Recount.receive`: one update with any totals
* `Tracker.follow_recount`: a run of updates
-/

namespace Probing

/-- What is to be said about one more outcome after a history. -/
def Condition.verdict (condition : Condition) (expect : Nat) (history : List Outcome)
    (outcome : Outcome) : Evaluation :=
  .recorded outcome
    (decide (condition.SatisfiedAt expect (history ++ [outcome])))
    (decide (¬ condition.MetBy expect history ∧
      condition.SatisfiedAt expect (history ++ [outcome])))
    (decide (condition.MetBy expect (history ++ [outcome])))

@[simp] theorem Condition.conditionMet_verdict (condition : Condition) (expect : Nat)
    (history : List Outcome) (outcome : Outcome) :
    (condition.verdict expect history outcome).conditionMet =
      decide (condition.MetBy expect (history ++ [outcome])) := rfl

/-- The verdicts on the outcomes of a history, one after the other. -/
def Condition.verdicts (condition : Condition) (expect : Nat) (history : List Outcome) :
    List Evaluation :=
  history.mapIdx fun i outcome => condition.verdict expect (history.take i) outcome

theorem Condition.verdicts_concat (condition : Condition) (expect : Nat) (history : List Outcome)
    (outcome : Outcome) :
    condition.verdicts expect (history ++ [outcome]) =
      condition.verdicts expect history ++ [condition.verdict expect history outcome] := by
  rw [verdicts, List.mapIdx_concat, List.take_left, verdicts, List.append_cancel_right_eq,
    List.mapIdx_eq_mapIdx_iff]
  intro i hi
  rw [List.take_append_of_le_length (Nat.le_of_lt hi)]

namespace Tracker

/-- The status of a run whose condition was met or not. -/
def statusFor (condition : Condition) (met : Prop) [Decidable met] : ExitStatus :=
  if condition.report.exitStatus then if met then .armedMet else .armedUnmet else .disabled

variable {condition : Condition} {expect : Nat} {history : List Outcome} {tracker : Tracker}

theorem statusFor_eq_disabled_iff {met : Prop} [Decidable met] :
    statusFor condition met = .disabled ↔ condition.report.exitStatus = false := by
  unfold statusFor
  cases condition.report.exitStatus <;> by_cases hmet : met <;> simp [hmet]

theorem statusFor_eq_armedMet_iff {met : Prop} [Decidable met]
    (h : condition.report.exitStatus = true) :
    statusFor condition met = .armedMet ↔ met := by
  unfold statusFor
  by_cases hmet : met <;> simp [h, hmet]

/-- **The state of a tracker is the recount of a history.** -/
structure Recount (condition : Condition) (expect : Nat) (history : List Outcome)
    (tracker : Tracker) : Prop where
  condition_eq : tracker.condition = condition
  transmitted_eq : tracker.transmitted = history.length
  received_eq : tracker.received = history.count .success
  streak_eq : tracker.streak = condition.followedRun history
  met_eq : tracker.met = decide (condition.MetBy expect history)
  status_eq : tracker.status = statusFor condition (condition.MetBy expect history)

theorem count_success_add_count_failure (history : List Outcome) :
    history.count .success + history.count .failure = history.length := by
  induction history with
  | nil => rfl
  | cons outcome history ih => cases outcome <;> simp <;> omega

namespace Recount

theorem failures_eq (h : Recount condition expect history tracker) :
    tracker.failures = history.count .failure := by
  have hsplit := count_success_add_count_failure history
  rw [failures, h.transmitted_eq, h.received_eq]
  omega

end Recount

/-! ## One record -/

/-- A tracker in the middle of a record: the outcome is counted, the condition not yet evaluated. -/
structure Counted (condition : Condition) (expect : Nat) (history : List Outcome)
    (outcome : Outcome) (tracker : Tracker) : Prop where
  condition_eq : tracker.condition = condition
  transmitted_eq : tracker.transmitted = (history ++ [outcome]).length
  received_eq : tracker.received = (history ++ [outcome]).count .success
  streak_eq : tracker.streak = condition.followedRun history
  met_eq : tracker.met = decide (condition.MetBy expect history)
  status_eq : tracker.status = statusFor condition (condition.MetBy expect history)

theorem Recount.counted (h : Recount condition expect history tracker) (outcome : Outcome)
    (map : Option OutcomeMap) :
    Counted condition expect history outcome ((tracker.count outcome).withMap map) := by
  cases outcome <;>
    exact
      { condition_eq := h.condition_eq
        transmitted_eq := by simp [count, withMap, h.transmitted_eq]
        received_eq := by simp [count, withMap, h.received_eq]
        streak_eq := h.streak_eq
        met_eq := h.met_eq
        status_eq := h.status_eq }

variable {outcome : Outcome}

namespace Counted

/-- The total of counted outcomes is that of the longer history. -/
theorem countedTotal_eq (h : Counted condition expect history outcome tracker) :
    tracker.countedTotal = (history ++ [outcome]).count condition.counting := by
  have hsplit := count_success_add_count_failure (history ++ [outcome])
  unfold countedTotal
  rw [h.condition_eq]
  cases condition.counting with
  | success => exact h.received_eq
  | failure =>
    show tracker.transmitted - tracker.received = _
    rw [h.transmitted_eq, h.received_eq]
    omega

/-- The streak goes on to the run at the end of the longer history. -/
theorem extendStreak_eq (h : Counted condition expect history outcome tracker)
    (hlocation : condition.location = .sequence) :
    tracker.extendStreak outcome = condition.trailing (history ++ [outcome]) := by
  have hstreak : tracker.streak = condition.trailing history := by
    rw [h.streak_eq, Condition.followedRun, hlocation]
  unfold extendStreak
  rw [h.condition_eq, hstreak]
  split
  · next hcounted => exact (Condition.trailing_concat_counted hcounted).symm
  · next hother => exact (Condition.trailing_concat_other hother).symm

/-- The status is marked exactly when the condition is met for the first time. -/
theorem status_settled (h : Counted condition expect history outcome tracker) :
    (if decide (condition.SatisfiedAt expect (history ++ [outcome])) && !tracker.met then
        tracker.status.markMet
      else tracker.status) =
      statusFor condition (condition.MetBy expect (history ++ [outcome])) := by
  rw [h.met_eq, h.status_eq]
  by_cases hbefore : condition.MetBy expect history
  · have hafter : condition.MetBy expect (history ++ [outcome]) :=
      Condition.metBy_concat.mpr (.inl hbefore)
    simp [hbefore, hafter, statusFor]
  · by_cases hsatisfied : condition.SatisfiedAt expect (history ++ [outcome])
    · have hafter : condition.MetBy expect (history ++ [outcome]) :=
        Condition.metBy_concat.mpr (.inr hsatisfied)
      cases harmed : condition.report.exitStatus <;>
        simp [hbefore, hsatisfied, hafter, statusFor, harmed, ExitStatus.markMet]
    · have hafter : ¬ condition.MetBy expect (history ++ [outcome]) := by
        rw [Condition.metBy_concat]
        exact not_or.mpr ⟨hbefore, hsatisfied⟩
      simp [hbefore, hsatisfied, hafter, statusFor]

/-- The end of an evaluation makes the state a recount again. -/
theorem settle (h : Counted condition expect history outcome tracker) {streak : Nat}
    (hstreak : streak = condition.followedRun (history ++ [outcome])) :
    Recount condition expect (history ++ [outcome])
        (({ tracker with streak } : Tracker).settle outcome
          (decide (condition.SatisfiedAt expect (history ++ [outcome])))).tracker ∧
      (({ tracker with streak } : Tracker).settle outcome
          (decide (condition.SatisfiedAt expect (history ++ [outcome])))).answer =
        .evaluated (condition.verdict expect history outcome) := by
  have hmet : (tracker.met || decide (condition.SatisfiedAt expect (history ++ [outcome]))) =
      decide (condition.MetBy expect (history ++ [outcome])) := by
    rw [h.met_eq, ← Bool.decide_or]
    exact decide_eq_decide.mpr Condition.metBy_concat.symm
  rw [settle_tracker, settle_answer]
  constructor
  · exact
      { condition_eq := h.condition_eq
        transmitted_eq := h.transmitted_eq
        received_eq := h.received_eq
        streak_eq := hstreak
        met_eq := hmet
        status_eq := h.status_settled }
  · rw [hmet, h.met_eq, ← decide_not, ← Bool.decide_and]
    rfl

/-- An evaluation makes the state a recount again and gives the verdict. -/
theorem evaluate (h : Counted condition expect history outcome tracker)
    (hexpect : condition.expect = .ofNat expect) :
    Recount condition expect (history ++ [outcome]) (tracker.evaluate outcome).tracker ∧
      (tracker.evaluate outcome).answer =
        .evaluated (condition.verdict expect history outcome) := by
  cases hlocation : condition.location with
  | cumulative =>
    have hstreak : tracker.streak = condition.followedRun (history ++ [outcome]) := by
      rw [h.streak_eq, Condition.followedRun, Condition.followedRun, hlocation]
    have hsatisfied : tracker.condition.expect.ble tracker.countedTotal =
        decide (condition.SatisfiedAt expect (history ++ [outcome])) := by
      rw [h.condition_eq, hexpect, Number.ble_ofNat, h.countedTotal_eq]
      refine decide_eq_decide.mpr ?_
      rw [Condition.SatisfiedAt, hlocation]
    rw [evaluate_of_cumulative (by rw [h.condition_eq, hlocation]), hsatisfied]
    exact h.settle hstreak
  | sequence =>
    have hextended := h.extendStreak_eq hlocation
    have hstreak : tracker.extendStreak outcome =
        condition.followedRun (history ++ [outcome]) := by
      rw [hextended, Condition.followedRun, hlocation]
    have hsatisfied :
        decide (Number.ofNat (tracker.extendStreak outcome) = tracker.condition.expect) =
          decide (condition.SatisfiedAt expect (history ++ [outcome])) := by
      rw [h.condition_eq, hexpect, hextended]
      refine decide_eq_decide.mpr ?_
      rw [Number.ofNat_inj, Condition.SatisfiedAt, hlocation]
    rw [evaluate_of_sequence (by rw [h.condition_eq, hlocation]), hsatisfied]
    exact h.settle hstreak

end Counted

/-- A record that the map takes in turns the recount of a history into that of the longer one. -/
theorem Recount.record_of_entered (h : Recount condition expect history tracker)
    (hexpect : condition.expect = .ofNat expect)
    (hentered : ∀ map, tracker.map = some map → (map.record outcome).failure = none) :
    Recount condition expect (history ++ [outcome]) (tracker.record outcome).tracker ∧
      (tracker.record outcome).answer =
        .evaluated (condition.verdict expect history outcome) := by
  obtain ⟨htracker, hanswer⟩ := Tracker.record_of_entered hentered
  rw [htracker, hanswer]
  exact (h.counted outcome _).evaluate hexpect

/-- **One record** turns the recount of a history into that of the longer one. -/
theorem Recount.record (h : Recount condition expect history tracker)
    (hexpect : condition.expect = .ofNat expect) (hsteady : tracker.Steady) (outcome : Outcome) :
    Recount condition expect (history ++ [outcome]) (tracker.record outcome).tracker ∧
      (tracker.record outcome).answer =
        .evaluated (condition.verdict expect history outcome) :=
  h.record_of_entered hexpect (hsteady.entered outcome)

/-! ## Runs of updates -/

/-- What a tracker is told: whole totals, and a source of slots for its map as it is at that
moment, which does not fail. -/
structure Told where
  transmitted : Int
  received : Int
  source : Allocator
  steady : source.Steady

/-- Tells a tracker totals, its map having the source of slots of that moment. -/
def receive (tracker : Tracker) (told : Told) : Step :=
  (tracker.withMap (tracker.map.map fun map => map.withSource told.source)).update
    (whole told.transmitted told.received)

/-- A tracker in the course of a run, and its answers so far. -/
structure Trace where
  tracker : Tracker
  answers : List Answer := []

/-- The trace after one more update. -/
def Trace.next (trace : Trace) (told : Told) : Trace :=
  let step := trace.tracker.receive told
  { tracker := step.tracker, answers := trace.answers ++ [step.answer] }

/-- A run of updates from a tracker on. -/
def follow (tracker : Tracker) (told : List Told) : Trace :=
  told.foldl Trace.next { tracker }

/-- The evaluation of an answer that recorded an outcome. -/
def Answer.recorded? : Answer → Option Evaluation
  | .evaluated (.recorded outcome satisfied newlyMet met) =>
    some (.recorded outcome satisfied newlyMet met)
  | _ => none

/-- The outcome of an answer that recorded one. -/
def Answer.outcome? : Answer → Option Outcome
  | .evaluated (.recorded outcome _ _ _) => some outcome
  | _ => none

/-- The evaluations of the answers that recorded an outcome. -/
def Trace.evaluations (trace : Trace) : List Evaluation :=
  trace.answers.filterMap Answer.recorded?

/-- The outcomes recorded so far. -/
def Trace.outcomes (trace : Trace) : List Outcome :=
  trace.answers.filterMap Answer.outcome?

theorem follow_concat (tracker : Tracker) (calls : List Told) (told : Told) :
    tracker.follow (calls ++ [told]) = (tracker.follow calls).next told :=
  List.foldl_concat ..

/-- A new tracker has recorded nothing, and has the map that its condition asks for. -/
theorem eq_of_create {storage : Storage} (h : create condition storage = .ok tracker) :
    ∃ map, tracker = { condition, map, status := ExitStatus.initial condition.report } ∧
      ∀ made, map = some made → ∃ request : MapRequest,
        OutcomeMap.create request.maxCapacity request.glyphs storage = .ok made := by
  unfold Tracker.create at h
  split at h
  · exact ⟨none, (Except.ok.inj h).symm, nofun⟩
  · next request _ =>
    split at h
    · cases h
    · next map hmap =>
      refine ⟨some map, (Except.ok.inj h).symm, ?_⟩
      rintro made ⟨⟩
      exact ⟨request, hmap⟩

/-- Trackers for conditions with the same map are made alike. -/
theorem create_congr {condition' : Condition}
    (h : condition'.report.map = condition.report.map) (storage : Storage) :
    create condition' storage = (create condition storage).map fun tracker =>
      { condition := condition', map := tracker.map, status := .initial condition'.report } := by
  unfold create
  rw [h]
  cases condition.report.map with
  | none => rfl
  | some request =>
    dsimp only
    cases OutcomeMap.create request.maxCapacity request.glyphs storage <;> rfl

theorem Recount.create {storage : Storage} (hexpect : 0 < expect)
    (hcreate : create condition storage = .ok tracker) :
    Recount condition expect [] tracker := by
  have hunmet : ¬ condition.MetBy expect [] := Condition.not_metBy_nil hexpect
  obtain ⟨map, rfl, -⟩ := eq_of_create hcreate
  exact
    { condition_eq := rfl
      transmitted_eq := rfl
      received_eq := rfl
      streak_eq := by
        unfold Condition.followedRun
        cases condition.location <;> rfl
      met_eq := by simp [hunmet]
      status_eq := by simp [ExitStatus.initial, statusFor, hunmet] }

theorem Recount.withMap (h : Recount condition expect history tracker)
    (map : Option OutcomeMap) : Recount condition expect history (tracker.withMap map) :=
  { condition_eq := h.condition_eq
    transmitted_eq := h.transmitted_eq
    received_eq := h.received_eq
    streak_eq := h.streak_eq
    met_eq := h.met_eq
    status_eq := h.status_eq }

theorem Told.steady_withMap (told : Told) (tracker : Tracker) :
    (tracker.withMap (tracker.map.map fun map => map.withSource told.source)).Steady := by
  intro map hmap
  obtain ⟨before, -, rfl⟩ := Option.map_eq_some_iff.mp hmap
  exact told.steady

/-- **One update with any totals** records an outcome and gives the verdict on it, or leaves the
recount as it is. -/
theorem Recount.receive (h : Recount condition expect history tracker)
    (hexpect : condition.expect = .ofNat expect) (told : Told) :
    (∃ outcome, Recount condition expect (history ++ [outcome]) (tracker.receive told).tracker ∧
      (tracker.receive told).answer = .evaluated (condition.verdict expect history outcome)) ∨
    (Recount condition expect history (tracker.receive told).tracker ∧
      (tracker.receive told).answer.recorded? = none ∧
      (tracker.receive told).answer.outcome? = none) := by
  unfold Tracker.receive
  have hsteady := told.steady_withMap tracker
  have hbefore := h.withMap (tracker.map.map fun map => map.withSource told.source)
  generalize tracker.withMap (tracker.map.map fun map => map.withSource told.source) = before
    at hsteady hbefore ⊢
  by_cases hmoved : ∃ outcome, before.MovedTo told.transmitted told.received outcome
  · obtain ⟨outcome, hmoved⟩ := hmoved
    rw [update_of_moved hmoved]
    exact .inl ⟨outcome, hbefore.record hexpect hsteady outcome⟩
  · right
    by_cases hstay : told.transmitted = before.transmitted ∧ told.received = before.received
    · rw [update_of_unchanged hstay.1 hstay.2]
      exact ⟨hbefore, rfl, rfl⟩
    · obtain ⟨htracker, deltaSuccess, deltaFailure, hanswer⟩ :=
        update_of_jumped hstay (not_exists.mp hmoved)
      rw [htracker, hanswer]
      exact ⟨hbefore, rfl, rfl⟩

theorem Recount.follow (h : Recount condition expect [] tracker)
    (hexpect : condition.expect = .ofNat expect) (calls : List Told) :
    Recount condition expect (tracker.follow calls).outcomes (tracker.follow calls).tracker ∧
      (tracker.follow calls).evaluations =
        condition.verdicts expect (tracker.follow calls).outcomes := by
  induction calls using List.reverseRecOn with
  | nil => exact ⟨h, rfl⟩
  | append_singleton calls told ih =>
    obtain ⟨hrecount, hverdicts⟩ := ih
    have hevaluations : (tracker.follow (calls ++ [told])).evaluations =
        (tracker.follow calls).evaluations ++
          [((tracker.follow calls).tracker.receive told).answer].filterMap Answer.recorded? := by
      rw [follow_concat]
      exact List.filterMap_append
    have houtcomes : (tracker.follow (calls ++ [told])).outcomes =
        (tracker.follow calls).outcomes ++
          [((tracker.follow calls).tracker.receive told).answer].filterMap Answer.outcome? := by
      rw [follow_concat]
      exact List.filterMap_append
    have htracker : (tracker.follow (calls ++ [told])).tracker =
        ((tracker.follow calls).tracker.receive told).tracker := by
      rw [follow_concat]
      rfl
    rw [htracker, hevaluations, houtcomes]
    rcases hrecount.receive hexpect told with
      ⟨outcome, hnext, hanswer⟩ | ⟨hnext, hrecorded, houtcome⟩
    · have hone : [((tracker.follow calls).tracker.receive told).answer].filterMap
          Answer.outcome? = [outcome] := by
        rw [hanswer]
        rfl
      rw [hone]
      refine ⟨hnext, ?_⟩
      rw [hanswer, hverdicts, Condition.verdicts_concat]
      rfl
    · simp only [List.filterMap_cons, hrecorded, houtcome, List.filterMap_nil, List.append_nil]
      exact ⟨hnext, hverdicts⟩

/-- **A tracker is a recount.** After any calls with whole totals, the totals, the streak, the state
and the status are those of the outcomes recorded so far, and so was every answer that recorded one
of them. -/
theorem follow_eq_recount {storage : Storage} (hexpect : condition.expect = .ofNat expect)
    (hpos : 0 < expect) (hcreate : create condition storage = .ok tracker) (calls : List Told) :
    let trace := tracker.follow calls
    let history := trace.outcomes
    (trace.tracker.successes = history.count .success ∧
      trace.tracker.failures = history.count .failure ∧
      trace.tracker.received ≤ trace.tracker.transmitted ∧
      trace.tracker.transmitted = history.length) ∧
    trace.tracker.streak = condition.followedRun history ∧
    (trace.tracker.met = true ↔ condition.MetBy expect history) ∧
    ((trace.tracker.status = .disabled ↔ condition.report.exitStatus = false) ∧
      (condition.report.exitStatus = true →
        (trace.tracker.status = .armedMet ↔ trace.tracker.met = true))) ∧
    trace.evaluations.length = history.length ∧
    ∀ (i : Nat) (hi : i < history.length), ∃ satisfied newlyMet met,
      trace.evaluations[i]? = some (.recorded history[i] satisfied newlyMet met) ∧
      (satisfied = true ↔ condition.SatisfiedAt expect (history.take (i + 1))) ∧
      (newlyMet = true ↔ condition.SatisfiedAt expect (history.take (i + 1)) ∧
        ∀ j < i, ¬ condition.SatisfiedAt expect (history.take (j + 1))) ∧
      (met = true ↔ condition.MetBy expect (history.take (i + 1))) := by
  intro trace history
  obtain ⟨hrecount, hverdicts⟩ := (Recount.create hpos hcreate).follow hexpect calls
  refine ⟨⟨hrecount.received_eq, hrecount.failures_eq, ?_, hrecount.transmitted_eq⟩,
    hrecount.streak_eq, ?_, ⟨?_, ?_⟩, ?_, ?_⟩
  · rw [hrecount.received_eq, hrecount.transmitted_eq]
    exact List.count_le_length
  · rw [hrecount.met_eq, decide_eq_true_iff]
  · rw [hrecount.status_eq]
    exact statusFor_eq_disabled_iff
  · intro harmed
    rw [hrecount.status_eq, hrecount.met_eq, decide_eq_true_iff]
    exact statusFor_eq_armedMet_iff harmed
  · rw [hverdicts, Condition.verdicts, List.length_mapIdx]
  · intro i hi
    have hprefix : history.take i ++ [history[i]] = history.take (i + 1) :=
      List.take_append_getElem hi
    have hanswer : trace.evaluations[i]? =
        some (condition.verdict expect (history.take i) history[i]) := by
      rw [hverdicts, Condition.verdicts, List.getElem?_mapIdx, List.getElem?_eq_getElem hi]
      rfl
    rw [Condition.verdict, hprefix] at hanswer
    refine ⟨_, _, _, hanswer, decide_eq_true_iff, ?_, decide_eq_true_iff⟩
    rw [decide_eq_true_iff, Condition.not_metBy_take_iff hpos (Nat.le_of_lt hi), and_comm]

/-- Two losses in a row, told between a repetition and a jump, arm the status. -/
theorem follow_eq_recount_two_losses :
    let condition : Condition :=
      { source := "-2sxm", expect := .ofNat 2, counting := .failure, location := .sequence
        report := { exitStatus := true, map := some ⟨.ofNat 3, .standard⟩ } }
    let told (transmitted received : Int) : Told :=
      { transmitted, received, source := .standard, steady := Allocator.standard_steady }
    ∃ tracker, create condition {} = .ok tracker ∧ condition.expect = .ofNat 2 ∧ 0 < 2 ∧
      (tracker.follow [told 1 1, told 2 1, told 2 1, told 5 1, told 3 1]).tracker.status =
        .armedMet := by
  intro condition told
  refine ⟨_, rfl, rfl, by decide, ?_⟩
  obtain ⟨-, -, hmet, ⟨-, hstatus⟩, -⟩ :=
    @follow_eq_recount condition 2 _ {} rfl (by decide) rfl
      [told 1 1, told 2 1, told 2 1, told 5 1, told 3 1]
  exact (hstatus rfl).mpr (hmet.mpr (by decide +kernel))

end Tracker

end Probing
