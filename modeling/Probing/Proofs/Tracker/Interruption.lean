import Probing.Proofs.Tracker.Erasure

/-!
# Interrupted updates

An update counts its outcome before it enters it into the map. If the source of slots fails then,
the update is interrupted between the two: the outcome stays counted, but the map has not taken it
in and the condition is not evaluated on it. Told the same totals again, the tracker finds nothing
new in them, so the outcome is never made up for.

## Main definitions

* `OutcomeMap.Unstarted`: a map without slots is at its beginning
* `Tracker.Attainable`: the trackers that any updates lead to, interrupted ones included
* `Tracker.OnlyCounted`: a tracker has counted an outcome, and done nothing else

## Main results

* `OutcomeMap.Unstarted.record_of_failed`: what a record leaves behind that fails
* `Tracker.update_interrupted_iff`: the updates that are interrupted
* `Tracker.update_interrupted`: what an interrupted update leaves behind
-/

namespace Probing

/-! ## Records that fail -/

namespace OutcomeMap

variable {map : OutcomeMap} {slots : Array Text} {outcome : Outcome} {reason : Text}

/-- A request for more slots that fails leaves the map as it was. -/
theorem grow_of_failed (h : (map.grow slots).failure = some reason) :
    (map.grow slots).map = map := by
  unfold grow at h ⊢
  by_cases hfull : map.maxCapacity ≤ slots.size
  · rw [if_pos hfull]
  · rw [if_neg hfull] at h ⊢
    cases hanswer : map.storage.allocate (map.growthRequest slots.size) <;>
      simp only [hanswer, reduceCtorEq] at h ⊢

/-- A record in a map with slots fails only if the slots are full, and leaves the map as it was. -/
theorem append_of_failed (h : (map.append slots outcome).failure = some reason) :
    map.writePos = slots.size ∧ (map.append slots outcome).map = map := by
  by_cases hfull : map.writePos = slots.size
  · refine ⟨hfull, ?_⟩
    unfold OutcomeMap.append at h ⊢
    simp only [if_pos hfull] at h ⊢
    cases hgrown : (map.grow slots).failure with
    | none => simp [hgrown] at h
    | some _ => exact grow_of_failed hgrown
  · simp [OutcomeMap.append, hfull] at h

/-- A first request that fails leaves the map as it was. -/
theorem acquire_of_failed (h : map.acquire.failure = some reason) : map.acquire.map = map := by
  unfold acquire at h ⊢
  cases hanswer : map.storage.allocate map.firstRequest <;>
    simp only [hanswer, reduceCtorEq] at h ⊢

/-- Slots after the first request are the granted ones. -/
theorem acquire_of_slots (hnone : map.slots = none) (h : map.acquire.map.slots = some slots) :
    map.storage.allocate map.firstRequest = .granted slots.size ∧
      map.acquire.map = { map with slots := some slots } := by
  unfold acquire at h ⊢
  cases hanswer : map.storage.allocate map.firstRequest with
  | granted n =>
    simp only [hanswer, Option.some.injEq] at h ⊢
    subst h
    simp
  | refused reason => simp [hanswer, hnone] at h
  | failed reason => simp [hanswer, hnone] at h

/-- A map without slots writes to its first one next. -/
def Unstarted (map : OutcomeMap) : Prop :=
  map.slots = none → map.writePos = 0

/-- A map with slots keeps some. -/
theorem append_slots_ne_none (hslots : map.slots = some slots) (outcome : Outcome) :
    (map.append slots outcome).map.slots ≠ none := by
  have hgrown : (map.grow slots).map.slots ≠ none := by
    unfold grow
    split
    · simp [hslots]
    · dsimp only
      split <;> simp [hslots]
  unfold OutcomeMap.append
  dsimp only
  split
  · cases (map.grow slots).failure with
    | none => simp [write]
    | some reason => exact hgrown
  · simp [write]

/-- **A record leaves no map without slots behind that is not at its beginning.** -/
theorem Unstarted.record (h : map.Unstarted) (outcome : Outcome) :
    (map.record outcome).map.Unstarted := by
  rcases record_cases map outcome with
    hrecord | ⟨slots, hslots, hrecord⟩ | ⟨hslots, -, hrecord⟩ | ⟨slots, -, hfirst, hrecord, -⟩
  · rwa [hrecord]
  · rw [hrecord]
    exact fun hnone => absurd hnone (append_slots_ne_none hslots outcome)
  · obtain ⟨first, enabled, hmap⟩ := acquire_map map
    rw [hrecord, hmap]
    exact fun _ => h hslots
  · rw [Unstarted, hrecord]
    exact fun hnone => absurd hnone (append_slots_ne_none hfirst outcome)

/-- **What a record leaves behind that fails**: the map as it was, unless the first request was
granted no slot at all and the next one failed. -/
theorem Unstarted.record_of_failed (hstart : map.Unstarted)
    (h : (map.record outcome).failure = some reason) :
    (map.record outcome).map = map ∨
      map.slots = none ∧ map.storage.allocate map.firstRequest = .granted 0 ∧
        (map.record outcome).map = { map with slots := some #[] } := by
  rcases record_cases map outcome with
    hrecord | ⟨slots, -, hrecord⟩ | ⟨-, -, hrecord⟩ | ⟨slots, hslots, hfirst, hmap, hfailure⟩
  · rw [hrecord] at h
    cases h
  · rw [hrecord] at h ⊢
    exact .inl (append_of_failed h).2
  · rw [hrecord] at h ⊢
    exact .inl (acquire_of_failed h)
  · obtain ⟨hgranted, hacquired⟩ := acquire_of_slots hslots hfirst
    obtain ⟨hfull, hkept⟩ := append_of_failed (hfailure.symm.trans h)
    have hsize : slots.size = 0 := by
      rw [← hfull, hacquired]
      exact hstart hslots
    obtain rfl := Array.eq_empty_of_size_eq_zero hsize
    exact .inr ⟨hslots, hgranted, hmap.trans (hkept.trans hacquired)⟩

end OutcomeMap

namespace Tracker

variable {tracker : Tracker} {outcome : Outcome} {counters : Counters} {reason : Text}

/-! ## Updates that are interrupted -/

/-- A record in a tracker is interrupted by the failure of the map, with the outcome counted. -/
theorem record_of_failed {map : OutcomeMap} (hmap : tracker.map = some map)
    (h : (map.record outcome).failure = some reason) :
    (tracker.record outcome).answer = .interrupted reason ∧
      (tracker.record outcome).tracker =
        (tracker.count outcome).withMap (some (map.record outcome).map) := by
  cases outcome <;> simp [record, count, withMap, hmap, h]

/-- A record is interrupted by nothing but a failure of the map. -/
theorem record_interrupted_iff :
    (tracker.record outcome).answer = .interrupted reason ↔
      ∃ map, tracker.map = some map ∧ (map.record outcome).failure = some reason := by
  constructor
  · intro h
    have hevaluated : ∀ counted : Tracker,
        (counted.evaluate outcome).answer ≠ .interrupted reason := by
      intro counted hinterrupted
      obtain ⟨satisfied, newlyMet, hanswer⟩ := evaluate_answer counted outcome
      cases hanswer.symm.trans hinterrupted
    cases hmap : tracker.map with
    | none => cases outcome <;> simp [record, count, hmap, hevaluated] at h
    | some map =>
      cases hfailure : (map.record outcome).failure with
      | none => cases outcome <;> simp [record, count, hmap, hfailure, hevaluated] at h
      | some failure =>
        have hanswer := (record_of_failed hmap hfailure).1
        obtain rfl := Answer.interrupted.inj (hanswer.symm.trans h)
        exact ⟨map, rfl, hfailure⟩
  · rintro ⟨map, hmap, hfailure⟩
    exact (record_of_failed hmap hfailure).1

/-- **The updates that are interrupted** are single steps whose record in the map fails. -/
theorem update_interrupted_iff :
    (tracker.update counters).answer = .interrupted reason ↔
      ∃ outcome map,
        singleStep? (tracker.deltaSuccess counters) (tracker.deltaFailure counters) =
            some outcome ∧
          tracker.map = some map ∧ (map.record outcome).failure = some reason := by
  rcases update_cases tracker counters with ⟨outcome, hstep, hupdate⟩ | ⟨hstep, -, hreturned⟩
  · rw [hupdate, hstep, record_interrupted_iff]
    simp
  · rw [hstep]
    refine iff_of_false ?_ fun ⟨_, _, hsome, _⟩ => nomatch hsome
    rcases hreturned with hanswer | hanswer <;> simp [hanswer]

/-! ## Attainable trackers -/

/-- The trackers that any updates lead to, from a new tracker on. The source of slots may change
at any time, and may fail. -/
inductive Attainable : Tracker → Prop
  | create {condition : Condition} {storage : Storage} {tracker : Tracker} :
      create condition storage = .ok tracker → Attainable tracker
  | withSource {tracker : Tracker} (source : Allocator) :
      Attainable tracker → Attainable (tracker.withSource source)
  | update {tracker : Tracker} (counters : Counters) :
      Attainable tracker → Attainable (tracker.update counters).tracker

/-- Updates that do not fail are among them. -/
theorem Reachable.attainable (h : Reachable tracker) : Attainable tracker := by
  induction h with
  | create hcreate => exact .create hcreate
  | receive told _ ih => exact (ih.withSource told.source).update _

/-- What updates of any kind keep: there are no more replies than probes, and a map without slots
is at its beginning. -/
structure Orderly (tracker : Tracker) : Prop where
  received_le : tracker.received ≤ tracker.transmitted
  unstarted : ∀ map, tracker.map = some map → map.Unstarted

theorem Orderly.create {condition : Condition} {storage : Storage}
    (h : Tracker.create condition storage = .ok tracker) : Orderly tracker := by
  obtain ⟨map, rfl, hmade⟩ := eq_of_create h
  refine ⟨Nat.le_refl _, fun made hmap => ?_⟩
  obtain ⟨request, hcreated⟩ := hmade made hmap
  obtain ⟨capacity, rfl⟩ := OutcomeMap.eq_of_create hcreated
  exact fun _ => rfl

theorem Orderly.withSource (h : Orderly tracker) (source : Allocator) :
    Orderly (tracker.withSource source) := by
  refine ⟨h.received_le, fun map hmap => ?_⟩
  obtain ⟨before, hbefore, rfl⟩ := Option.map_eq_some_iff.mp hmap
  exact h.unstarted before hbefore

theorem Orderly.record (h : Orderly tracker) (outcome : Outcome) :
    Orderly (tracker.record outcome).tracker := by
  obtain ⟨htransmitted, hreceived⟩ := record_totals tracker outcome
  refine ⟨?_, fun map hmap => ?_⟩
  · rw [htransmitted, hreceived]
    have hle := h.received_le
    cases outcome <;> simp only [count] <;> omega
  · rw [record_map] at hmap
    obtain ⟨before, hbefore, rfl⟩ := Option.map_eq_some_iff.mp hmap
    exact (h.unstarted before hbefore).record outcome

/-- **One update keeps a tracker orderly**, interrupted or not. -/
theorem Orderly.update (h : Orderly tracker) (counters : Counters) :
    Orderly (tracker.update counters).tracker := by
  rcases update_cases tracker counters with ⟨outcome, -, hupdate⟩ | ⟨-, htracker, -⟩
  · rw [hupdate]
    exact h.record outcome
  · rwa [htracker]

/-- **Attainable trackers are orderly.** -/
theorem Attainable.orderly (h : Attainable tracker) : Orderly tracker := by
  induction h with
  | create hcreate => exact .create hcreate
  | withSource source _ ih => exact ih.withSource source
  | update counters _ ih => exact ih.update counters

/-! ## What is left behind -/

/-- What an interrupted update leaves of a tracker: the outcome is counted, the condition is not
evaluated on it, and the map has not taken it in. -/
structure OnlyCounted (tracker : Tracker) (outcome : Outcome) (after : Tracker) : Prop where
  condition_eq : after.condition = tracker.condition
  successes_eq : after.successes = tracker.successes + [outcome].count .success
  failures_eq : after.failures = tracker.failures + [outcome].count .failure
  streak_eq : after.streak = tracker.streak
  met_eq : after.met = tracker.met
  status_eq : after.status = tracker.status
  shown_eq : after.snapshot.map = tracker.snapshot.map
  /-- The map is the same one, unless it got a first block of no slots. -/
  map_eq : ∃ map, tracker.map = some map ∧
    (after.map = some map ∨ map.slots = none ∧
      map.storage.allocate map.firstRequest = .granted 0 ∧
        after.map = some { map with slots := some #[] })

theorem Orderly.onlyCounted (h : Orderly tracker) {map : OutcomeMap} (hmap : tracker.map = some map)
    (hfailure : (map.record outcome).failure = some reason) :
    OnlyCounted tracker outcome
      ((tracker.count outcome).withMap (some (map.record outcome).map)) := by
  have hkept := (h.unstarted map hmap).record_of_failed hfailure
  have hshown : (map.record outcome).map.render = map.render := by
    rcases hkept with hsame | ⟨hnone, -, hempty⟩
    · rw [hsame]
    · rw [hempty]
      simp [OutcomeMap.render, hnone]
  have hfailures : (tracker.count outcome).failures =
      tracker.failures + [outcome].count .failure := by
    have hle := h.received_le
    cases outcome with
    | success => simp [failures, count]
    | failure =>
      simp [failures, count]
      omega
  exact
    { condition_eq := by cases outcome <;> rfl
      successes_eq := by cases outcome <;> rfl
      failures_eq := hfailures
      streak_eq := by cases outcome <;> rfl
      met_eq := by cases outcome <;> rfl
      status_eq := by cases outcome <;> rfl
      shown_eq := by simp only [snapshot, withMap, hmap, Option.map_some, hshown]
      map_eq := ⟨map, hmap, by simpa only [withMap, Option.some_inj] using hkept⟩ }

theorem update_of_singleStep
    (h : singleStep? (tracker.deltaSuccess counters) (tracker.deltaFailure counters) =
      some outcome) :
    tracker.update counters = tracker.record outcome := by
  rcases update_cases tracker counters with ⟨outcome', hstep, hupdate⟩ | ⟨hnone, -⟩
  · obtain rfl := Option.some.inj (hstep.symm.trans h)
    exact hupdate
  · cases hnone.symm.trans h

/-- Whole totals that are a single step away have moved by one probe. -/
theorem movedTo_of_singleStep {transmitted received : Int}
    (h : singleStep? (tracker.deltaSuccess (whole transmitted received))
      (tracker.deltaFailure (whole transmitted received)) = some outcome) :
    tracker.MovedTo transmitted received outcome := by
  unfold singleStep? at h
  split at h
  · next hreply =>
    obtain rfl := Option.some.inj h
    obtain ⟨hr, ht⟩ := (deltas_eq_iff _ _ _ 1 0 (by decide) (by decide)).mp hreply
    constructor <;> omega
  · split at h
    · next hloss =>
      obtain rfl := Option.some.inj h
      obtain ⟨hr, ht⟩ := (deltas_eq_iff _ _ _ 0 1 (by decide) (by decide)).mp hloss
      constructor <;> omega
    · cases h

/-- **What an interrupted update leaves behind.** The outcome of its single step is counted, and
nothing else has happened. Told the same totals again, whatever the source of slots then is, the
tracker answers that they are unchanged: the condition is never evaluated on that outcome, and no
map shows it. -/
theorem update_interrupted (h : Attainable tracker)
    (hanswer : (tracker.update counters).answer = .interrupted reason) :
    let after := (tracker.update counters).tracker
    ∃ outcome,
      singleStep? (tracker.deltaSuccess counters) (tracker.deltaFailure counters) = some outcome ∧
      OnlyCounted tracker outcome after ∧
      ∀ transmitted received, counters = whole transmitted received → ∀ source,
        (after.withSource source).update counters =
          { tracker := after.withSource source
            answer := .evaluated (.unchanged tracker.met) } := by
  intro after
  obtain ⟨outcome, map, hstep, hmap, hfailure⟩ := update_interrupted_iff.mp hanswer
  have hafter : after = (tracker.count outcome).withMap (some (map.record outcome).map) := by
    rw [← (record_of_failed hmap hfailure).2, ← update_of_singleStep hstep]
  have hcounted : OnlyCounted tracker outcome after := by
    rw [hafter]
    exact h.orderly.onlyCounted hmap hfailure
  refine ⟨outcome, hstep, hcounted, ?_⟩
  rintro transmitted received rfl source
  have hmoved := movedTo_of_singleStep hstep
  have htotals : transmitted = after.transmitted ∧ received = after.received := by
    rw [hafter]
    cases outcome <;> exact hmoved
  have hmet : (after.withSource source).met = tracker.met := hcounted.met_eq
  rw [← hmet]
  exact update_of_unchanged htotals.1 htotals.2

/-- A second slot that cannot be had: the second reply is counted, and stays without effect. -/
theorem update_interrupted_at_growth :
    let condition : Condition :=
      { source := "2m", expect := .ofNat 2, counting := .success, location := .cumulative
        report := { map := some ⟨.ofNat 3, .standard⟩ } }
    let storage : Storage :=
      { initialCeiling := .ofNat 1, growthStep := .ofNat 1
        allocate := fun size => if size = .ofNat 1 then .granted 1 else .failed "boom" }
    ∃ fresh, create condition storage = .ok fresh ∧
      let tracker := (fresh.update (whole 1 1)).tracker
      let after := (tracker.update (whole 2 2)).tracker
      Attainable tracker ∧ (tracker.update (whole 2 2)).answer = .interrupted "boom" ∧
        after.successes = 2 ∧ after.met = false ∧
        ((after.withSource .standard).update (whole 2 2)).answer =
          .evaluated (.unchanged false) := by
  intro condition storage
  refine ⟨_, rfl, ?_⟩
  intro tracker after
  have hattainable : Attainable tracker :=
    .update (whole 1 1) (.create (rfl : create condition storage = .ok _))
  have hinterrupted : (tracker.update (whole 2 2)).answer = .interrupted "boom" := by
    decide +kernel +zetaReduce
  obtain ⟨outcome, hstep, hcounted, hagain⟩ := update_interrupted hattainable hinterrupted
  have hreply : singleStep? (tracker.deltaSuccess (whole 2 2)) (tracker.deltaFailure (whole 2 2)) =
      some .success := by
    decide +kernel +zetaReduce
  obtain rfl := Option.some.inj (hreply.symm.trans hstep)
  have hbefore : tracker.successes = 1 ∧ tracker.met = false := by decide +kernel +zetaReduce
  refine ⟨hattainable, hinterrupted, ?_, hcounted.met_eq.trans hbefore.2, ?_⟩
  · have hcount := hcounted.successes_eq
    rwa [hbefore.1] at hcount
  · have hanswer := congrArg Step.answer (hagain 2 2 rfl .standard)
    rwa [hbefore.2] at hanswer

/-- A first slot that cannot be had: the reply is counted although the update was interrupted, and
is not evaluated when it is told again. -/
theorem update_interrupted_at_first_request :
    let condition : Condition :=
      { source := "1:xcm(9)", expect := .ofNat 1, counting := .success, location := .cumulative
        report := { exitStatus := true, showState := true, map := some ⟨.ofNat 9, .standard⟩ } }
    let storage : Storage := { allocate := fun _ => .failed "boom 9" }
    ∃ tracker, create condition storage = .ok tracker ∧
      let after := (tracker.update (whole 1 1)).tracker
      (tracker.update (whole 1 1)).answer = .interrupted "boom 9" ∧
        tracker.successes = 0 ∧ after.successes = 1 ∧
        (after.update (whole 1 1)).answer = .evaluated (.unchanged false) := by
  intro condition storage
  refine ⟨_, rfl, ?_⟩
  decide +kernel +zetaReduce

end Tracker

end Probing
