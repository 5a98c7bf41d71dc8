import Probing.Proofs.OutcomeMap.Supply
import Probing.Proofs.Tracker.Recount

/-!
# Records of a tracker

A tracker that records outcomes one after the other, without being told totals. Each record answers
whether the condition is met by now, moves the totals by its outcome, and enters the outcome into
the map and does nothing else to it. What a snapshot of the tracker shows is then a function of the
outcomes.

## Main definitions

* `Tracker.recordAll`: the tracker after records of the given outcomes
* `Tracker.Snapshot.ofHistory`: what a snapshot shows of a history

## Main results

* `Tracker.record_answer`: what a record answers
* `Tracker.map_recordAll`: the map of a tracker has recorded what the tracker has
* `Tracker.Recount.snapshot_eq`: the snapshot of a recount
-/

namespace Probing

/-- A new map is empty and asks the source of slots that it was made with. -/
theorem OutcomeMap.eq_of_create {maxCapacity : Number} {glyphs : Glyphs} {storage : Storage}
    {map : OutcomeMap} (h : OutcomeMap.create maxCapacity glyphs storage = .ok map) :
    ∃ capacity, map = { glyphs, storage, maxCapacity := capacity } := by
  unfold OutcomeMap.create at h
  split at h
  · cases h
  · split at h
    · cases h
    · exact ⟨_, (Except.ok.inj h).symm⟩

namespace Tracker

/-- A new tracker asks the source of slots that it was made with. -/
theorem Steady.create {condition : Condition} {storage : Storage} {tracker : Tracker}
    (hsteady : storage.allocate.Steady)
    (hcreate : Tracker.create condition storage = .ok tracker) : tracker.Steady := by
  obtain ⟨map, rfl, hmade⟩ := eq_of_create hcreate
  intro made hmap
  obtain ⟨request, hcreated⟩ := hmade made hmap
  obtain ⟨capacity, rfl⟩ := OutcomeMap.eq_of_create hcreated
  exact hsteady

/-! ## Records in a row -/

/-- The tracker after records of the given outcomes. -/
def recordAll (tracker : Tracker) (outcomes : List Outcome) : Tracker :=
  outcomes.foldl (fun tracker outcome => (tracker.record outcome).tracker) tracker

@[simp] theorem recordAll_nil (tracker : Tracker) : tracker.recordAll [] = tracker := rfl

@[simp] theorem recordAll_cons (tracker : Tracker) (outcome : Outcome) (rest : List Outcome) :
    tracker.recordAll (outcome :: rest) = (tracker.record outcome).tracker.recordAll rest := rfl

/-- An evaluation answers with its outcome, and tells whether the condition is met by now. -/
theorem evaluate_answer (tracker : Tracker) (outcome : Outcome) :
    ∃ satisfied newlyMet, (tracker.evaluate outcome).answer =
      .evaluated (.recorded outcome satisfied newlyMet
        (tracker.evaluate outcome).tracker.met) := by
  cases hlocation : tracker.condition.location with
  | cumulative =>
    rw [evaluate_of_cumulative hlocation, settle_answer, settle_tracker]
    exact ⟨_, _, rfl⟩
  | sequence =>
    rw [evaluate_of_sequence hlocation, settle_answer, settle_tracker]
    exact ⟨_, _, rfl⟩

theorem evaluate_transmitted (tracker : Tracker) (outcome : Outcome) :
    (tracker.evaluate outcome).tracker.transmitted = tracker.transmitted := by
  cases hlocation : tracker.condition.location with
  | cumulative => rw [evaluate_of_cumulative hlocation, settle_tracker]
  | sequence => rw [evaluate_of_sequence hlocation, settle_tracker]

theorem evaluate_received (tracker : Tracker) (outcome : Outcome) :
    (tracker.evaluate outcome).tracker.received = tracker.received := by
  cases hlocation : tracker.condition.location with
  | cumulative => rw [evaluate_of_cumulative hlocation, settle_tracker]
  | sequence => rw [evaluate_of_sequence hlocation, settle_tracker]

/-- **What a record answers**, when the source of slots never fails. -/
theorem record_answer {tracker : Tracker} (h : tracker.Steady) (outcome : Outcome) :
    ∃ satisfied newlyMet, (tracker.record outcome).answer =
      .evaluated (.recorded outcome satisfied newlyMet (tracker.record outcome).tracker.met) := by
  obtain ⟨map, -, htracker, hanswer⟩ := record_eq h outcome
  rw [htracker, hanswer]
  exact evaluate_answer _ outcome

/-- A record leaves the totals as they are counted on, whether or not the map fails. -/
theorem record_totals (tracker : Tracker) (outcome : Outcome) :
    (tracker.record outcome).tracker.transmitted = (tracker.count outcome).transmitted ∧
      (tracker.record outcome).tracker.received = (tracker.count outcome).received := by
  cases hmap : tracker.map with
  | none =>
    cases outcome <;> simp [record, count, hmap, evaluate_transmitted, evaluate_received]
  | some map =>
    cases hfailure : (map.record outcome).failure <;> cases outcome <;>
      simp [record, count, hmap, hfailure, evaluate_transmitted, evaluate_received]

/-- The recount of a history goes on with the outcomes recorded. -/
theorem Recount.recordAll {condition : Condition} {expect : Nat}
    (hexpect : condition.expect = .ofNat expect) (outcomes : List Outcome) :
    ∀ {history : List Outcome} {tracker : Tracker},
      Recount condition expect history tracker → tracker.Steady →
      Recount condition expect (history ++ outcomes) (tracker.recordAll outcomes) := by
  induction outcomes with
  | nil =>
    intro history tracker h hsteady
    rwa [List.append_nil]
  | cons outcome rest ih =>
    intro history tracker h hsteady
    rw [List.append_cons]
    exact ih (h.record hexpect hsteady outcome).1 (hsteady.record outcome)

/-! ## The map -/

/-- A record enters its outcome into the map, whether or not that succeeds. -/
theorem record_map (tracker : Tracker) (outcome : Outcome) :
    (tracker.record outcome).tracker.map =
      tracker.map.map fun map => (map.record outcome).map := by
  cases hmap : tracker.map with
  | none => cases outcome <;> simp [record, count, hmap, evaluate_map]
  | some map =>
    cases hfailure : (map.record outcome).failure <;>
      cases outcome <;> simp [record, count, hmap, hfailure, evaluate_map]

/-- The map of a tracker has recorded what the tracker has. -/
theorem map_recordAll (tracker : Tracker) (outcomes : List Outcome) :
    (tracker.recordAll outcomes).map = tracker.map.map fun map => map.recordEach outcomes := by
  induction outcomes generalizing tracker with
  | nil => simp [OutcomeMap.recordEach]
  | cons outcome rest ih =>
    rw [recordAll_cons, ih, record_map, Option.map_map]
    rfl

/-! ## Snapshots -/

/-- What a snapshot shows of a history, with the contents of the map. -/
def Snapshot.ofHistory (condition : Condition) (expect : Nat) (map : Option Text)
    (history : List Outcome) : Snapshot where
  request := condition.report
  successes := .ofNat (history.count .success)
  failures := .ofNat (history.count .failure)
  conditionMet := decide (condition.MetBy expect history)
  map

/-- **The snapshot of a recount** shows the history. -/
theorem Recount.snapshot_eq {condition : Condition} {expect : Nat} {history : List Outcome}
    {tracker : Tracker} (h : Recount condition expect history tracker) :
    tracker.snapshot =
      .ofHistory condition expect (tracker.map.map OutcomeMap.render) history := by
  have hfailures := h.failures_eq
  rw [snapshot, h.condition_eq, successes, h.received_eq, hfailures, h.met_eq]
  rfl

end Tracker

end Probing
