import Probing.Proofs.Number.Whole
import Probing.Proofs.OutcomeMap.Source
import Probing.Tracker

/-!
# Updates of a tracker

Whole totals that are told to a tracker either stayed where they are, moved by one probe, or jumped.
Rounding does not blur this: a difference that comes out as zero or one is the exact difference. A
record whose map asks a source of slots that never fails always ends in an evaluation.

## Main definitions

* `Tracker.Steady`: the map of the tracker asks a source that never fails
* `Tracker.settle`: what an evaluation does once it is known whether the condition is satisfied
* `Tracker.whole`, `Tracker.MovedTo`: whole totals, one probe further than those of the tracker

## Main results

* `Tracker.record_of_entered`, `Tracker.record_eq`: a record evaluates the condition on the totals
  counted on
* `Tracker.evaluate_of_cumulative`, `Tracker.evaluate_of_sequence`: the two ways to evaluate
* `Tracker.update_cases`: the ways to answer any totals
* `Tracker.update_of_unchanged`, `Tracker.update_of_moved`, `Tracker.update_of_jumped`: the three
  answers to whole totals
-/

namespace Probing.Tracker

/-- The map of a tracker, if it has one, asks a source that never fails. -/
def Steady (tracker : Tracker) : Prop :=
  ∀ map, tracker.map = some map → map.storage.allocate.Steady

/-! ## Records -/

/-- The tracker with another map. -/
def withMap (tracker : Tracker) (map : Option OutcomeMap) : Tracker :=
  { tracker with map }

/-- The end of an evaluation, when it is known whether the condition is satisfied. -/
def settle (tracker : Tracker) (outcome : Outcome) (satisfied : Bool) : Step :=
  if satisfied && !tracker.met then
    { tracker := { tracker with met := true, status := tracker.status.markMet }
      answer := .evaluated (.recorded outcome true true true)
      events := [.conditionMet tracker.condition.expect tracker.successes tracker.failures] }
  else
    { tracker, answer := .evaluated (.recorded outcome satisfied false tracker.met) }

theorem evaluate_of_cumulative {tracker : Tracker}
    (h : tracker.condition.location = .cumulative) (outcome : Outcome) :
    tracker.evaluate outcome =
      tracker.settle outcome (tracker.condition.expect.ble tracker.countedTotal) := by
  simp only [evaluate, h]
  rfl

theorem evaluate_of_sequence {tracker : Tracker}
    (h : tracker.condition.location = .sequence) (outcome : Outcome) :
    tracker.evaluate outcome =
      ({ tracker with streak := tracker.extendStreak outcome } : Tracker).settle outcome
        (decide (Number.ofNat (tracker.extendStreak outcome) = tracker.condition.expect)) := by
  simp only [evaluate, h]
  rfl

theorem settle_answer (tracker : Tracker) (outcome : Outcome) (satisfied : Bool) :
    (tracker.settle outcome satisfied).answer =
      .evaluated (.recorded outcome satisfied (!tracker.met && satisfied)
        (tracker.met || satisfied)) := by
  unfold settle
  cases satisfied <;> cases tracker.met <;> simp

theorem settle_tracker (tracker : Tracker) (outcome : Outcome) (satisfied : Bool) :
    (tracker.settle outcome satisfied).tracker =
      { tracker with
        met := tracker.met || satisfied
        status :=
          if satisfied && !tracker.met then tracker.status.markMet else tracker.status } := by
  unfold settle
  cases satisfied <;> cases hmet : tracker.met <;> simp <;> cases tracker <;> simp_all

theorem evaluate_map (tracker : Tracker) (outcome : Outcome) :
    (tracker.evaluate outcome).tracker.map = tracker.map := by
  cases hlocation : tracker.condition.location with
  | cumulative => rw [evaluate_of_cumulative hlocation, settle_tracker]
  | sequence => rw [evaluate_of_sequence hlocation, settle_tracker]

/-- A record counts the outcome, enters it into the map and evaluates the condition, if the map takes
it in. -/
theorem record_of_entered {tracker : Tracker} {outcome : Outcome}
    (h : ∀ map, tracker.map = some map → (map.record outcome).failure = none) :
    let counted :=
      (tracker.count outcome).withMap (tracker.map.map fun map => (map.record outcome).map)
    (tracker.record outcome).tracker = (counted.evaluate outcome).tracker ∧
      (tracker.record outcome).answer = (counted.evaluate outcome).answer := by
  cases hmap : tracker.map with
  | none => cases outcome <;> simp only [record, count, withMap, hmap, Option.map_none, and_self]
  | some map =>
    have hentered := h map hmap
    cases outcome <;>
      simp only [record, count, withMap, hmap, hentered, Option.map_some, and_self]

/-- A source of slots that never fails takes every outcome in. -/
theorem Steady.entered {tracker : Tracker} (h : tracker.Steady) (outcome : Outcome) :
    ∀ map, tracker.map = some map → (map.record outcome).failure = none :=
  fun map hmap => (OutcomeMap.record_returned (h map hmap) outcome).1

/-- Such a record goes on with the same source. -/
theorem record_eq {tracker : Tracker} (h : tracker.Steady) (outcome : Outcome) :
    ∃ map, (tracker.withMap map).Steady ∧
      (tracker.record outcome).tracker =
        (((tracker.count outcome).withMap map).evaluate outcome).tracker ∧
      (tracker.record outcome).answer =
        (((tracker.count outcome).withMap map).evaluate outcome).answer := by
  refine ⟨_, ?_, record_of_entered (h.entered outcome)⟩
  intro entered hsome
  obtain ⟨map, hmap, rfl⟩ := Option.map_eq_some_iff.mp hsome
  rw [(OutcomeMap.record_returned (h map hmap) outcome).2]
  exact h map hmap

/-- A record keeps the source of slots. -/
theorem Steady.record {tracker : Tracker} (h : tracker.Steady) (outcome : Outcome) :
    (tracker.record outcome).tracker.Steady := by
  obtain ⟨map, hsteady, htracker, -⟩ := record_eq h outcome
  intro entered hentered
  rw [htracker, evaluate_map] at hentered
  exact hsteady entered hentered

/-! ## Updates -/

/-- Whole totals, as they are told to a tracker. -/
def whole (transmitted received : Int) : Counters :=
  ⟨.ofInt transmitted, .ofInt received⟩

/-- The totals of a tracker have moved by one probe with the given outcome. -/
def MovedTo (tracker : Tracker) (transmitted received : Int) : Outcome → Prop
  | .success => transmitted = tracker.transmitted + 1 ∧ received = tracker.received + 1
  | .failure => transmitted = tracker.transmitted + 1 ∧ received = tracker.received

/-- The difference in replies, as an update computes it. -/
def deltaSuccess (tracker : Tracker) (counters : Counters) : Number :=
  counters.received.sub tracker.received

/-- The difference in losses, as an update computes it. -/
def deltaFailure (tracker : Tracker) (counters : Counters) : Number :=
  (counters.transmitted.sub tracker.transmitted).sub (tracker.deltaSuccess counters)

theorem update_eq (tracker : Tracker) (counters : Counters) :
    tracker.update counters =
      if tracker.deltaSuccess counters = .ofNat 0 ∧ tracker.deltaFailure counters = .ofNat 0 then
        { tracker, answer := .evaluated (.unchanged tracker.met) }
      else
        match singleStep? (tracker.deltaSuccess counters) (tracker.deltaFailure counters) with
        | some outcome => tracker.record outcome
        | none =>
          { tracker
            answer := .violation (tracker.deltaSuccess counters) (tracker.deltaFailure counters)
            events :=
              [.jumped counters (tracker.deltaSuccess counters)
                (tracker.deltaFailure counters)] } := rfl

/-- An update records the outcome of a single step, or leaves the tracker as it was. -/
theorem update_cases (tracker : Tracker) (counters : Counters) :
    (∃ outcome,
      singleStep? (tracker.deltaSuccess counters) (tracker.deltaFailure counters) = some outcome ∧
        tracker.update counters = tracker.record outcome) ∨
    (singleStep? (tracker.deltaSuccess counters) (tracker.deltaFailure counters) = none ∧
      (tracker.update counters).tracker = tracker ∧
      ((tracker.update counters).answer = .evaluated (.unchanged tracker.met) ∨
        (tracker.update counters).answer =
          .violation (tracker.deltaSuccess counters) (tracker.deltaFailure counters))) := by
  rw [update_eq]
  by_cases hzero :
      tracker.deltaSuccess counters = .ofNat 0 ∧ tracker.deltaFailure counters = .ofNat 0
  · right
    rw [if_pos hzero, hzero.1, hzero.2]
    exact ⟨by decide, rfl, .inl rfl⟩
  · rw [if_neg hzero]
    cases hstep : singleStep? (tracker.deltaSuccess counters) (tracker.deltaFailure counters) with
    | some outcome => exact .inl ⟨outcome, rfl, rfl⟩
    | none => exact .inr ⟨rfl, rfl, .inr rfl⟩

variable {tracker : Tracker} {transmitted received : Int}

/-- Small differences come out as they are, and nothing else comes out small. -/
theorem deltas_eq_iff (tracker : Tracker) (transmitted received : Int) (k l : Nat)
    (hk : (k : Int).natAbs ≤ 1) (hl : (l : Int).natAbs ≤ 1) :
    (tracker.deltaSuccess (whole transmitted received) = .ofNat k ∧
        tracker.deltaFailure (whole transmitted received) = .ofNat l) ↔
      received = tracker.received + k ∧ transmitted = tracker.transmitted + k + l := by
  have hsuccess : tracker.deltaSuccess (whole transmitted received) = .ofInt k ↔
      received - tracker.received = k := Number.sub_ofInt_eq_iff hk
  constructor
  · rintro ⟨hreplies, hlosses⟩
    -- The difference in losses is taken from a difference that is known to be small by now.
    have hdifference := hsuccess.mp hreplies
    rw [deltaFailure, hreplies] at hlosses
    have hlost : transmitted - tracker.transmitted - k = l :=
      (Number.sub_sub_ofInt_eq_iff hk hl).mp hlosses
    constructor <;> omega
  · rintro ⟨hreplies, hprobes⟩
    have hdifference : tracker.deltaSuccess (whole transmitted received) = .ofInt k :=
      hsuccess.mpr (by omega)
    refine ⟨hdifference, ?_⟩
    rw [deltaFailure, hdifference]
    have hlost : transmitted - tracker.transmitted - k = l := by omega
    exact (Number.sub_sub_ofInt_eq_iff hk hl).mpr hlost

/-- Totals that stayed where they were leave no trace. -/
theorem update_of_unchanged (ht : transmitted = tracker.transmitted)
    (hr : received = tracker.received) :
    tracker.update (whole transmitted received) =
      { tracker, answer := .evaluated (.unchanged tracker.met) } := by
  have hzero := (deltas_eq_iff tracker transmitted received 0 0 (by decide) (by decide)).mpr
    ⟨by omega, by omega⟩
  rw [update_eq, if_pos hzero]

/-- Totals that moved by one probe are recorded. -/
theorem update_of_moved {outcome : Outcome} (h : tracker.MovedTo transmitted received outcome) :
    tracker.update (whole transmitted received) = tracker.record outcome := by
  cases outcome with
  | success =>
    obtain ⟨hprobes, hreplies⟩ := h
    obtain ⟨hsuccess, hfailure⟩ :=
      (deltas_eq_iff tracker transmitted received 1 0 (by decide) (by decide)).mpr
        ⟨by omega, by omega⟩
    rw [update_eq, hsuccess, hfailure]
    rfl
  | failure =>
    obtain ⟨hprobes, hreplies⟩ := h
    obtain ⟨hsuccess, hfailure⟩ :=
      (deltas_eq_iff tracker transmitted received 0 1 (by decide) (by decide)).mpr
        ⟨by omega, by omega⟩
    rw [update_eq, hsuccess, hfailure]
    rfl

/-- Any other totals are rejected and leave no trace. -/
theorem update_of_jumped
    (hstay : ¬ (transmitted = tracker.transmitted ∧ received = tracker.received))
    (hmove : ∀ outcome, ¬ tracker.MovedTo transmitted received outcome) :
    (tracker.update (whole transmitted received)).tracker = tracker ∧
      ∃ deltaSuccess deltaFailure,
        (tracker.update (whole transmitted received)).answer =
          .violation deltaSuccess deltaFailure := by
  have hunchanged : ¬ (tracker.deltaSuccess (whole transmitted received) = .ofNat 0 ∧
      tracker.deltaFailure (whole transmitted received) = .ofNat 0) := by
    rw [deltas_eq_iff _ _ _ 0 0 (by decide) (by decide)]
    exact fun ⟨hr, ht⟩ => hstay ⟨by omega, by omega⟩
  have hsuccess : ¬ (tracker.deltaSuccess (whole transmitted received) = .ofNat 1 ∧
      tracker.deltaFailure (whole transmitted received) = .ofNat 0) := by
    rw [deltas_eq_iff _ _ _ 1 0 (by decide) (by decide)]
    exact fun ⟨hr, ht⟩ => hmove .success ⟨by omega, by omega⟩
  have hfailure : ¬ (tracker.deltaSuccess (whole transmitted received) = .ofNat 0 ∧
      tracker.deltaFailure (whole transmitted received) = .ofNat 1) := by
    rw [deltas_eq_iff _ _ _ 0 1 (by decide) (by decide)]
    exact fun ⟨hr, ht⟩ => hmove .failure ⟨by omega, by omega⟩
  have hnone : singleStep? (tracker.deltaSuccess (whole transmitted received))
      (tracker.deltaFailure (whole transmitted received)) = none := by
    rw [singleStep?, if_neg hsuccess, if_neg hfailure]
  rw [update_eq, if_neg hunchanged, hnone]
  exact ⟨rfl, _, _, rfl⟩

end Probing.Tracker
