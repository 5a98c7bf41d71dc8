import Probing.Proofs.Command.ExitCode
import Probing.Proofs.OutcomeMap.Arrangement

/-!
# What a run replays

A run with well-formed arguments replays its outcomes up to the stop on a fresh tracker, and
everything it reports is a function of those outcomes. The map it shows is a window on them: however
the settings divide it into requests, it is as large as the condition asks for, as long as that many
slots can be had.

## Main definitions

* `Command.Attainable`: a condition whose map can be had in one piece
* `Command.Replayed`: a tracker that has replayed the outcomes of a run, and what it shows

## Main results

* `Command.create_map`: the map of a new tracker follows a plan
* `Command.recordAll_views`: what the map of a tracker shows of the outcomes recorded
* `Command.run_replayed`: the report of a run is made from a snapshot of the outcomes up to the stop
-/

namespace Probing

/-! ## The map of a condition that was read -/

/-- Each glyph is a single unit. -/
def Glyphs.AreUnits (glyphs : Glyphs) : Prop :=
  ∃ success failure : CodeUnit, glyphs = ⟨[success], [failure]⟩

namespace Condition

/-- The glyphs of a map that was read are single units. -/
theorem parse_glyphs {defaultCapacity : Number} {text : Text} {condition : Condition}
    (h : parse defaultCapacity text = .ok condition) {request : MapRequest}
    (hmap : condition.report.map = some request) : request.glyphs.AreUnits := by
  obtain ⟨-, token, -, -, htoken⟩ := exists_token_of_parse h hmap
  match token, htoken with
  | .map none, htoken =>
    obtain rfl := Option.some.inj htoken
    exact ⟨_, _, rfl⟩
  | .map (some ⟨size, none, nonempty⟩), htoken =>
    obtain rfl := Option.some.inj htoken
    exact ⟨_, _, rfl⟩
  | .map (some ⟨size, some pair, nonempty⟩), htoken =>
    obtain rfl := Option.some.inj htoken
    exact ⟨_, _, rfl⟩

end Condition

namespace Command

variable {settings : Settings} {condition : Condition} {expect : Nat} {tracker : Tracker}

/-! ## The map of a new tracker -/

/-- The map that a condition asks for can be made after a plan, with the sizes of the settings. -/
theorem exists_plan (hsized : settings.Sized) (hrealizable : condition.Realizable expect)
    {request : MapRequest} (hmap : condition.report.map = some request)
    (hunits : request.glyphs.AreUnits) :
    ∃ plan : OutcomeMap.Plan, request = ⟨.ofNat plan.capacity, plan.glyphs⟩ ∧
      storageOf settings = plan.storage .standard ∧ plan.ceiling ≤ Settings.maxSize := by
  obtain ⟨capacity, hcapacity⟩ := hrealizable.capacity request hmap
  obtain ⟨hmax, capacity_pos, capacity_le⟩ := Number.positiveInteger?_eq_some_iff.mp hcapacity
  obtain ⟨ceiling, ceiling_pos, hsmall, hceiling⟩ := hsized.initialCeiling
  obtain ⟨step, step_pos, -, hstep⟩ := hsized.growthStep
  obtain ⟨success, failure, hglyphs⟩ := hunits
  let plan : OutcomeMap.Plan :=
    { capacity, ceiling, step, glyphs := request.glyphs
      capacity_pos, capacity_le, ceiling_pos, step_pos
      success_ne := by simp [hglyphs]
      failure_ne := by simp [hglyphs] }
  refine ⟨plan, ?_, ?_, hsmall⟩
  · rw [← hmax]
  · rw [storageOf, hceiling, hstep]
    rfl

/-- **The map of a new tracker** is the empty map of a plan. -/
theorem create_map (hsized : settings.Sized) (hrealizable : condition.Realizable expect)
    (hunits : ∀ request, condition.report.map = some request → request.glyphs.AreUnits)
    (hcreate : Tracker.create condition (storageOf settings) = .ok tracker) :
    (condition.report.map = none ∧ tracker.map = none) ∨
      ∃ plan : OutcomeMap.Plan, plan.ceiling ≤ Settings.maxSize ∧
        condition.report.map = some ⟨.ofNat plan.capacity, plan.glyphs⟩ ∧
        tracker.map = some (plan.empty .standard) := by
  unfold Tracker.create at hcreate
  split at hcreate
  · next hmap =>
    obtain rfl := Except.ok.inj hcreate
    exact .inl ⟨hmap, rfl⟩
  · next request hmap =>
    obtain ⟨plan, rfl, hstorage, hceiling⟩ :=
      exists_plan hsized hrealizable hmap (hunits request hmap)
    rw [hstorage, plan.create_eq] at hcreate
    obtain rfl := Except.ok.inj hcreate
    exact .inr ⟨plan, hceiling, hmap, rfl⟩

/-- The map that a condition asks for can be had in one piece. -/
def Attainable (condition : Condition) : Prop :=
  ∀ request, condition.report.map = some request →
    request.maxCapacity.ble (.ofNat Allocator.slotLimit) = true

/-- What is shown of a map with room for `bound` outcomes. -/
def shownMap (condition : Condition) (bound : Nat) (outcomes : List Outcome) : Option Text :=
  condition.report.map.map fun request => OutcomeMap.window request.glyphs bound outcomes

/-- The debug text of a tracker: the slots of its map, if it has one. -/
def shownSlots (condition : Condition) (stored : List Outcome) (missing position : Nat) : Text :=
  (condition.report.map.map fun request =>
    OutcomeMap.slotsView request.glyphs stored missing position).getD
      "(no outcome map requested)"

/-- **What a tracker shows of the outcomes recorded**: a window on them, and in its slots the same
outcomes in storage order. Both are as large as the condition asks for if that many slots can be
had. -/
theorem recordAll_views (hsized : settings.Sized) (hrealizable : condition.Realizable expect)
    (hunits : ∀ request, condition.report.map = some request → request.glyphs.AreUnits)
    (hcreate : Tracker.create condition (storageOf settings) = .ok tracker)
    (outcomes : List Outcome) :
    ∃ bound stored missing position,
      (tracker.recordAll outcomes).map.map OutcomeMap.render =
        shownMap condition bound outcomes ∧
      Ring.Arranged bound outcomes stored ∧
      debugMapOf (tracker.recordAll outcomes) = shownSlots condition stored missing position ∧
      ∀ request, condition.report.map = some request → Attainable condition →
        request.maxCapacity = .ofNat bound := by
  rw [debugMapOf, Tracker.map_recordAll]
  unfold shownMap shownSlots
  rcases create_map hsized hrealizable hunits hcreate with
    ⟨hnone, hmap⟩ | ⟨plan, hceiling, hsome, hmap⟩
  · obtain ⟨stored, hstored⟩ := Ring.exists_arranged Nat.one_pos outcomes
    refine ⟨1, stored, 0, 0, ?_, hstored, ?_, ?_⟩
    · rw [hmap, hnone]
      rfl
    · rw [hmap, hnone]
      rfl
    · intro request hrequest
      rw [hnone] at hrequest
      cases hrequest
  · have hsmall : plan.firstSize ≤ Allocator.slotLimit :=
      (Nat.min_le_right _ _).trans (hceiling.trans (by decide))
    have hgranted := Allocator.standard_supplies _ hsmall
    have hrender := OutcomeMap.render_recordEach plan Allocator.standard_exact
      Allocator.standard_steady hgranted outcomes
    obtain ⟨stored, missing, position, hstored, hslots⟩ :=
      OutcomeMap.renderSlots_recordEach plan Allocator.standard_exact Allocator.standard_steady
        hgranted outcomes
    refine ⟨_, stored, missing, position, ?_, hstored, ?_, ?_⟩
    · rw [hmap, hsome, Option.map_some, Option.map_some, Option.map_some, hrender]
    · rw [hmap, hsome, Option.map_some]
      exact hslots
    · intro request hrequest hattainable
      obtain rfl := Option.some.inj (hsome.symm.trans hrequest)
      have hle : plan.capacity ≤ Allocator.slotLimit := by
        simpa [Number.ble_ofNat] using hattainable _ hsome
      rw [OutcomeMap.maxCapacity_recordEach plan Allocator.standard_exact
        Allocator.standard_steady (Allocator.standard_supplies.mono hle)]

/-! ## Runs -/

variable {request : RunRequest} {outcomes : List Outcome} {count : Option Nat}

/-- A tracker has replayed the outcomes of a run up to the stop, and shows the last `bound` of them
in its map. -/
structure Replayed (condition : Condition) (expect : Nat) (outcomes : List Outcome)
    (count : Option Nat) (stop bound : Nat) (tracker : Tracker) : Prop where
  realizable : condition.Realizable expect
  stopsAt : Session.StopsAt condition expect outcomes (Session.bound count outcomes.length) stop
  recount : Tracker.Recount condition expect (outcomes.take stop) tracker
  snapshot_eq : tracker.snapshot = .ofHistory condition expect
    (shownMap condition bound (outcomes.take stop)) (outcomes.take stop)
  slots_eq : ∃ stored missing position, Ring.Arranged bound (outcomes.take stop) stored ∧
    debugMapOf tracker = shownSlots condition stored missing position
  /-- The map is as large as the condition asks for, if that many slots can be had. -/
  bound_eq : ∀ request, condition.report.map = some request → Attainable condition →
    request.maxCapacity = .ofNat bound

/-- **What a run replays**: the outcomes up to the stop. It reports on the tracker that has recorded
them. -/
theorem run_replayed (hsized : settings.Sized)
    (h : request.Accepted settings condition outcomes count) :
    ∃ expect stop bound tracker summary entries,
      Replayed condition expect outcomes count stop bound tracker ∧
      summary.received = (outcomes.take stop).count .success ∧
      run settings request =
        .ok ⟨.probeReport (probeReport settings request tracker summary), entries⟩ := by
  obtain ⟨expect, tracker, hrealizable, hcreate, hsteady⟩ := h.exists_tracker hsized
  obtain ⟨stop, hstop, htracker, hrecount, hresult⟩ :=
    Session.replay_course hrealizable.expect_eq hrealizable.expect_pos
      (.create hrealizable.expect_pos hcreate) hsteady count outcomes
  obtain ⟨bound, stored, missing, position, hshown, hstored, hslots, hbound⟩ :=
    recordAll_views hsized hrealizable
      (fun _ hmap => Condition.parse_glyphs h.condition_eq hmap) hcreate (outcomes.take stop)
  rw [← htracker] at hshown hslots
  have hsnapshot := hrecount.snapshot_eq
  rw [hshown] at hsnapshot
  obtain ⟨entries, hrun⟩ := run_of_finished h hcreate hresult
  exact ⟨expect, stop, bound, _, _, entries,
    ⟨hrealizable, hstop, hrecount, hsnapshot, ⟨stored, missing, position, hstored, hslots⟩, hbound⟩,
    rfl, hrun⟩

end Command

end Probing
