import Probing.Proofs.OutcomeMap.Layout

/-!
# An outcome map is a sliding window

A run of records, each of which may meet the source of slots in another state: the source grants,
refuses or fails as it likes, and a run goes on after a record that failed. Up to the first answer
to the first request that is no failure nothing is kept. If that answer is a refusal the map is off
for good; otherwise it shows the last outcomes whose records did not fail.

## Main definitions

* `Arrival`: an outcome to record, with the source of slots as it is at that moment
* `Run`, `recordAll`: the map after a list of arrivals, and the outcomes of the records that
  returned
* `firstAnswer?`: the answer that decides whether the map gets slots at all

## Main results

* `Tracks.next`: what one record keeps
* `render_recordAll`: the map is a window on the outcomes kept
-/

namespace Probing.OutcomeMap

/-! ## Runs -/

/-- An outcome to record, and what the source of slots answers at that moment. -/
structure Arrival where
  source : Allocator
  exact : source.Exact
  outcome : Outcome

/-- Records an outcome with the source of slots it arrives with. -/
def receive (map : OutcomeMap) (arrival : Arrival) : Step :=
  (map.withSource arrival.source).record arrival.outcome

instance : Inhabited Arrival :=
  ⟨{ source := .standard, exact := Allocator.standard_exact, outcome := .success }⟩

/-- As long as the source does not change, receiving is recording. -/
theorem receive_eq_record (map : OutcomeMap) (arrival : Arrival)
    (h : map.storage.allocate = arrival.source) :
    map.receive arrival = map.record arrival.outcome := by
  rw [receive, withSource, ← h]

/-- A map in the course of a run, and the outcomes of the records that returned. -/
structure Run where
  map : OutcomeMap
  kept : List Outcome := []

/-- The run after one more arrival. A record that fails is left behind. -/
def Run.next (run : Run) (arrival : Arrival) : Run :=
  let step := run.map.receive arrival
  { map := step.map
    kept := if step.failure.isSome then run.kept else run.kept ++ [arrival.outcome] }

/-- A run of records from a map on. -/
def recordAll (map : OutcomeMap) (arrivals : List Arrival) : Run :=
  arrivals.foldl Run.next { map }

theorem recordAll_concat (map : OutcomeMap) (arrivals : List Arrival) (arrival : Arrival) :
    map.recordAll (arrivals ++ [arrival]) = (map.recordAll arrivals).next arrival :=
  List.foldl_concat ..

/-- The first answer to the first request that is no failure. -/
def firstAnswer? (plan : Plan) (arrivals : List Arrival) : Option Allocation :=
  (arrivals.map fun arrival => arrival.source (.ofNat plan.firstSize)).find? Allocation.isSettled

theorem firstAnswer?_concat (plan : Plan) (arrivals : List Arrival) (arrival : Arrival) :
    firstAnswer? plan (arrivals ++ [arrival]) =
      (firstAnswer? plan arrivals).or
        ((arrival.source (.ofNat plan.firstSize) :: []).find? Allocation.isSettled) := by
  rw [firstAnswer?, List.map_append, List.find?_append]
  rfl

/-! ## The invariant of a run -/

/-- The map before its first slots: nothing is recorded. -/
structure Waiting (plan : Plan) (map : OutcomeMap) : Prop extends Follows plan map where
  enabled : map.enabled = true
  slots_eq : map.slots = none
  writePos_eq : map.writePos = 0
  capacity_eq : map.maxCapacity = plan.capacity

/-- What a run has come to, by the answer to its first request. -/
def Tracks (plan : Plan) (run : Run) : Option Allocation → Prop
  | none => Waiting plan run.map ∧ run.kept = []
  | some (.granted _) => ∃ slots, Layout plan run.map slots run.kept
  | some (.refused _) => run.map.enabled = false ∧ run.map.slots = none
  | some (.failed _) => False

variable {plan : Plan}

theorem Plan.waiting_empty (plan : Plan) (source : Allocator) :
    Waiting plan (plan.empty source) where
  glyphs_eq := rfl
  ceiling_eq := rfl
  step_eq := rfl
  capacity_le := Nat.le_refl _
  enabled := rfl
  slots_eq := rfl
  writePos_eq := rfl
  capacity_eq := rfl

/-- A change of the source does not touch the layout. -/
theorem Layout.withSource {map : OutcomeMap} {slots : Array Text} {kept : List Outcome}
    (h : Layout plan map slots kept) (source : Allocator) :
    Layout plan (map.withSource source) slots kept :=
  { glyphs_eq := h.glyphs_eq
    ceiling_eq := h.ceiling_eq
    step_eq := h.step_eq
    capacity_le := h.capacity_le
    enabled := h.enabled
    slots_eq := h.slots_eq
    size_pos := h.size_pos
    size_le := h.size_le
    holds := h.holds
    writePos_eq := h.writePos_eq
    early := h.early }

theorem Waiting.withSource {map : OutcomeMap} (h : Waiting plan map) (source : Allocator) :
    Waiting plan (map.withSource source) :=
  { glyphs_eq := h.glyphs_eq
    ceiling_eq := h.ceiling_eq
    step_eq := h.step_eq
    capacity_le := h.capacity_le
    enabled := h.enabled
    slots_eq := h.slots_eq
    writePos_eq := h.writePos_eq
    capacity_eq := h.capacity_eq }

/-- The ways in which the first outcome goes into a map. -/
inductive Opens (plan : Plan) (map : OutcomeMap) (outcome : Outcome) : Step → Prop
  /-- The first slots are granted, and the outcome is written into the first of them. -/
  | granted {after : OutcomeMap} {slots : Array Text}
      (answer : map.storage.allocate (.ofNat plan.firstSize) = .granted plan.firstSize)
      (layout : Layout plan after slots [outcome]) (size_eq : slots.size = plan.firstSize)
      (capacity_eq : after.maxCapacity = plan.capacity) :
      Opens plan map outcome
        { map := after, events := [.allocated (.ofNat plan.firstSize) plan.capacity] }
  /-- The first slots are refused, and the map is off. -/
  | refused (reason : Text)
      (answer : map.storage.allocate (.ofNat plan.firstSize) = .refused reason) :
      Opens plan map outcome
        { map := { map with enabled := false }
          events := [.allocationRefused reason (.ofNat plan.firstSize)] }
  /-- The request for the first slots fails. -/
  | failed (reason : Text)
      (answer : map.storage.allocate (.ofNat plan.firstSize) = .failed reason) :
      Opens plan map outcome { map, failure := some reason }

theorem Waiting.record_opens {map : OutcomeMap} (h : Waiting plan map)
    (hexact : map.storage.allocate.Exact) (outcome : Outcome) :
    Opens plan map outcome (map.record outcome) := by
  have hsize : 0 < plan.firstSize := Nat.lt_min.mpr ⟨plan.capacity_pos, plan.ceiling_pos⟩
  have hrequest := h.firstRequest_eq h.capacity_eq
  cases hanswer : map.storage.allocate (.ofNat plan.firstSize) with
  | granted granted =>
    obtain rfl := hexact _ _ hanswer
    have hlayout : Layout plan
        { map with slots := some (Array.replicate plan.firstSize []) }
        (Array.replicate plan.firstSize []) [] :=
      { h.toFollows with
        enabled := h.enabled
        slots_eq := rfl
        size_pos := by simpa using hsize
        size_le := by
          rw [Array.size_replicate]
          exact (Nat.min_le_left _ _).trans h.capacity_eq.ge
        holds := by
          rw [Array.toList_replicate]
          exact Ring.holds_replicate [] _
        writePos_eq := h.writePos_eq
        early := fun _ => Nat.zero_le _ }
    have hroom : map.writePos ≠ (Array.replicate plan.firstSize ([] : Text)).size := by
      rw [h.writePos_eq, Array.size_replicate]
      exact Nat.ne_of_lt hsize
    obtain ⟨after, slots', happend, hslots', hsize', hcapacity⟩ :=
      hlayout.append_of_room hroom outcome
    have hrecord : map.record outcome =
        { map := after, events := [.allocated (.ofNat plan.firstSize) plan.capacity] } := by
      simp only [OutcomeMap.record, acquire, h.enabled, h.slots_eq, hrequest, hanswer,
        h.capacity_eq] at happend ⊢
      rw [happend]
      rfl
    rw [hrecord]
    exact .granted hanswer hslots' (hsize'.trans Array.size_replicate)
      (hcapacity.trans h.capacity_eq)
  | refused reason =>
    have hrecord : map.record outcome =
        { map := { map with enabled := false }
          events := [.allocationRefused reason (.ofNat plan.firstSize)] } := by
      simp [OutcomeMap.record, acquire, h.enabled, h.slots_eq, hrequest, hanswer]
    rw [hrecord]
    exact .refused reason hanswer
  | failed reason =>
    have hrecord : map.record outcome = { map, failure := some reason } := by
      simp [OutcomeMap.record, acquire, h.enabled, h.slots_eq, hrequest, hanswer]
    rw [hrecord]
    exact .failed reason hanswer

/-- What the first record does, by the answer to its request. -/
def Starts (plan : Plan) (outcome : Outcome) (map : OutcomeMap) (step : Step) : Allocation → Prop
  | .granted _ => step.failure = none ∧ ∃ slots, Layout plan step.map slots [outcome]
  | .refused _ => step.failure = none ∧ step.map.enabled = false ∧ step.map.slots = none
  | .failed _ => step.failure.isSome ∧ step.map = map

theorem Waiting.record {map : OutcomeMap} (h : Waiting plan map)
    (hexact : map.storage.allocate.Exact) (outcome : Outcome) :
    Starts plan outcome map (map.record outcome)
      (map.storage.allocate (.ofNat plan.firstSize)) := by
  have hopens := h.record_opens hexact outcome
  generalize map.record outcome = step at hopens ⊢
  cases hopens with
  | granted answer layout =>
    rw [answer]
    exact ⟨rfl, _, layout⟩
  | refused reason answer =>
    rw [answer]
    exact ⟨rfl, rfl, h.slots_eq⟩
  | failed reason answer =>
    rw [answer]
    exact ⟨rfl, rfl⟩

theorem Waiting.receive {map : OutcomeMap} (h : Waiting plan map) (arrival : Arrival) :
    Starts plan arrival.outcome (map.withSource arrival.source) (map.receive arrival)
      (arrival.source (.ofNat plan.firstSize)) :=
  (h.withSource arrival.source).record arrival.exact arrival.outcome

theorem Layout.receive {map : OutcomeMap} {slots : Array Text} {kept : List Outcome}
    (h : Layout plan map slots kept) (arrival : Arrival) :
    Advances plan kept arrival.outcome (map.withSource arrival.source) (map.receive arrival) :=
  (h.withSource arrival.source).record arrival.exact arrival.outcome

/-- The fields of two maps that a failed record leaves as they were. -/
def Unchanged (before after : OutcomeMap) : Prop :=
  after.slots = before.slots ∧ after.writePos = before.writePos ∧
    after.maxCapacity = before.maxCapacity ∧ after.enabled = before.enabled

theorem Run.next_of_returned {run : Run} {arrival : Arrival}
    (h : (run.map.receive arrival).failure = none) :
    run.next arrival = ⟨(run.map.receive arrival).map, run.kept ++ [arrival.outcome]⟩ := by
  simp [Run.next, h]

theorem Run.next_of_failed {run : Run} {arrival : Arrival}
    (h : (run.map.receive arrival).failure.isSome) :
    run.next arrival = ⟨(run.map.receive arrival).map, run.kept⟩ := by
  simp [Run.next, h]

/-- A map that is switched off returns from every record as it was. -/
theorem receive_of_disabled {map : OutcomeMap} (h : map.enabled = false) (arrival : Arrival) :
    map.receive arrival = { map := map.withSource arrival.source } := by
  have henabled : (map.withSource arrival.source).enabled = false := h
  simp [receive, OutcomeMap.record, henabled]

/-- **One record keeps the invariant.** -/
theorem Tracks.next {run : Run} {answer? : Option Allocation} (h : Tracks plan run answer?)
    (arrival : Arrival) :
    Tracks plan (run.next arrival)
      (answer?.or
        ((arrival.source (.ofNat plan.firstSize) :: []).find? Allocation.isSettled)) := by
  match answer?, h with
  | none, ⟨hwaiting, hkept⟩ =>
    have hstart := hwaiting.receive arrival
    rw [Option.none_or]
    cases hanswer : arrival.source (.ofNat plan.firstSize) with
    | granted granted =>
      rw [hanswer] at hstart
      obtain ⟨hreturned, slots, hlayout⟩ := hstart
      rw [Run.next_of_returned hreturned, hkept]
      exact ⟨slots, hlayout⟩
    | refused reason =>
      rw [hanswer] at hstart
      obtain ⟨hreturned, henabled, hslots⟩ := hstart
      rw [Run.next_of_returned hreturned]
      exact ⟨henabled, hslots⟩
    | failed reason =>
      rw [hanswer] at hstart
      obtain ⟨hfailed, hmap⟩ := hstart
      rw [Run.next_of_failed hfailed, hmap]
      exact ⟨hwaiting.withSource arrival.source, hkept⟩
  | some (.granted granted), ⟨slots, hlayout⟩ =>
    rw [Option.some_or]
    rcases hlayout.receive arrival with
      ⟨hreturned, hlayout'⟩ | ⟨hfailed, hmap⟩
    · rw [Run.next_of_returned hreturned]
      exact hlayout'
    · rw [Run.next_of_failed hfailed, hmap]
      exact ⟨slots, hlayout.withSource arrival.source⟩
  | some (.refused reason), ⟨henabled, hslots⟩ =>
    rw [Option.some_or, Run.next, receive_of_disabled henabled]
    exact ⟨henabled, hslots⟩

/-- A record that fails changes nothing. -/
theorem Tracks.unchanged {run : Run} {answer? : Option Allocation} (h : Tracks plan run answer?)
    (arrival : Arrival) (hfailed : (run.map.receive arrival).failure.isSome) :
    Unchanged run.map (run.map.receive arrival).map := by
  match answer?, h with
  | none, ⟨hwaiting, _⟩ =>
    have hstart := hwaiting.receive arrival
    cases hanswer : arrival.source (.ofNat plan.firstSize) with
    | granted granted =>
      rw [hanswer] at hstart
      rw [hstart.1] at hfailed
      cases hfailed
    | refused reason =>
      rw [hanswer] at hstart
      rw [hstart.1] at hfailed
      cases hfailed
    | failed reason =>
      rw [hanswer] at hstart
      rw [hstart.2]
      exact ⟨rfl, rfl, rfl, rfl⟩
  | some (.granted granted), ⟨slots, hlayout⟩ =>
    rcases hlayout.receive arrival with
      ⟨hreturned, -⟩ | ⟨-, hmap⟩
    · rw [hreturned] at hfailed
      cases hfailed
    · rw [hmap]
      exact ⟨rfl, rfl, rfl, rfl⟩
  | some (.refused reason), ⟨henabled, _⟩ =>
    rw [receive_of_disabled henabled] at hfailed
    cases hfailed

theorem tracks_recordAll (plan : Plan) (source : Allocator) (arrivals : List Arrival) :
    Tracks plan ((plan.empty source).recordAll arrivals) (firstAnswer? plan arrivals) := by
  induction arrivals using List.reverseRecOn with
  | nil => exact ⟨plan.waiting_empty source, rfl⟩
  | append_singleton arrivals arrival ih =>
    rw [recordAll_concat, firstAnswer?_concat]
    exact ih.next arrival

/-- A refused first request leaves the map off, and it shows nothing. -/
theorem Tracks.render_of_refused {run : Run} {reason : Text}
    (h : Tracks plan run (some (.refused reason))) :
    run.map.enabled = false ∧ run.map.render = [] := by
  obtain ⟨henabled, hslots⟩ := h
  refine ⟨henabled, ?_⟩
  simp [render, hslots]

/-- Any other answer leaves the map on, and it shows the last outcomes kept. -/
theorem Tracks.render_of_admitted {run : Run} {answer? : Option Allocation}
    (h : Tracks plan run answer?) (hadmitted : ∀ reason, answer? ≠ some (.refused reason)) :
    run.map.enabled = true ∧ run.map.render = window plan.glyphs run.map.maxCapacity run.kept := by
  match answer?, h with
  | none, ⟨hwaiting, hkept⟩ =>
    refine ⟨hwaiting.enabled, ?_⟩
    simp [render, window, hwaiting.slots_eq, hkept]
  | some (.granted granted), ⟨slots, hlayout⟩ => exact ⟨hlayout.enabled, hlayout.render_eq⟩
  | some (.refused reason), _ => exact absurd rfl (hadmitted reason)

/-- **An outcome map is a sliding window.** Whatever the source of slots answers, the map is off
for good if the first request was refused, and shows the last outcomes kept otherwise, as many as
its present capacity allows; a record that fails changes nothing. -/
theorem render_recordAll (plan : Plan) (source : Allocator) (arrivals : List Arrival) :
    ∃ map, create (.ofNat plan.capacity) plan.glyphs (plan.storage source) = .ok map ∧
      ((∃ reason, firstAnswer? plan arrivals = some (.refused reason)) →
        (map.recordAll arrivals).map.enabled = false ∧
          (map.recordAll arrivals).map.render = []) ∧
      ((∀ reason, firstAnswer? plan arrivals ≠ some (.refused reason)) →
        (map.recordAll arrivals).map.enabled = true ∧
          (map.recordAll arrivals).map.render =
            window plan.glyphs (map.recordAll arrivals).map.maxCapacity
              (map.recordAll arrivals).kept) ∧
      ∀ arrival, ((map.recordAll arrivals).map.receive arrival).failure.isSome →
        Unchanged (map.recordAll arrivals).map
          ((map.recordAll arrivals).map.receive arrival).map := by
  refine ⟨plan.empty source, plan.create_eq source, ?_⟩
  have htracks := tracks_recordAll plan source arrivals
  refine ⟨?_, fun hadmitted => htracks.render_of_admitted hadmitted,
    fun arrival => htracks.unchanged arrival⟩
  rintro ⟨reason, hrefused⟩
  rw [hrefused] at htracks
  exact htracks.render_of_refused

end Probing.OutcomeMap
