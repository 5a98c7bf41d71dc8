import Probing.Proofs.Number.Rounding
import Probing.Proofs.OutcomeMap.Requests

/-!
# The ladder of sizes

While its requests are granted a map climbs a ladder of sizes, from the smaller of its capacity and
the ceiling of the first request, by one growth step at a time, up to the capacity. The check that
makes a map only asks that the ceiling and the step are not less than one. A fraction passes it, and
so does not-a-number, which is less than nothing. Then a rung of the ladder may be no whole number,
and the usual source of slots refuses it. The map works as it should exactly as long as the rungs it
climbs to are whole, and forever if ceiling and step are natural numbers or infinite.

## Main definitions

* `OutcomeMap.rung`: the sizes of the ladder
* `OutcomeMap.Needs map n k`: to hold `n` outcomes the map climbs to rung `k`
* `OutcomeMap.Unhampered`: a run without a refusal, which keeps what it should
* `OutcomeMap.Climbed`: what a run has come to as long as the rungs were whole

## Main results

* `OutcomeMap.record_shadow`: on whole rungs a map does what a map made from a plan does
* `OutcomeMap.New.runs`: a run climbs on whole rungs, or it was refused one that is none
* `OutcomeMap.unhampered_recordEach`: recording works exactly as long as the rungs are whole
-/

namespace Probing

open Number (ofNat IsWhole IsSize)

namespace OutcomeMap

/-! ## The ladder -/

/-- The sizes that a map asks for one after the other while they are granted. Once the capacity is
reached the size stays. -/
def rung (map : OutcomeMap) : Nat → Number
  | 0 => Number.min map.maxCapacity map.storage.initialCeiling
  | k + 1 =>
    if (map.rung k).blt map.maxCapacity then
      Number.min ((map.rung k).add map.storage.growthStep) map.maxCapacity
    else map.rung k

/-- To hold so many outcomes a map climbs to a rung: all rungs below it are too small. -/
def Needs (map : OutcomeMap) (count k : Nat) : Prop :=
  0 < count ∧ ∀ j < k, (map.rung j).blt (ofNat count) = true

/-- The outcomes are recorded without a refusal: the map stays on, keeps its capacity and shows the
last outcomes, as many as that. -/
structure Unhampered (map : OutcomeMap) (outcomes : List Outcome) : Prop where
  granted : ∀ before outcome rest, outcomes = before ++ outcome :: rest →
    ((map.recordEach before).record outcome).failure = none ∧
      ∀ request ∈ ((map.recordEach before).record outcome).requests, request.granted = true
  enabled : (map.recordEach outcomes).enabled = true
  maxCapacity_eq : (map.recordEach outcomes).maxCapacity = map.maxCapacity
  render_eq : (map.recordEach outcomes).render = window map.glyphs map.maxCapacity outcomes

/-- A new map that has passed the check, with the usual source of slots, a capacity that this source
can provide and glyphs that can be seen. -/
structure New (map : OutcomeMap) : Prop where
  enabled : map.enabled = true
  slots_eq : map.slots = none
  writePos_eq : map.writePos = 0
  source_eq : map.storage.allocate = .standard
  capacity_pos : 0 < map.maxCapacity
  capacity_le : map.maxCapacity ≤ Allocator.slotLimit
  ceiling_ge : map.storage.initialCeiling.blt (ofNat 1) = false
  step_ge : map.storage.growthStep.blt (ofNat 1) = false
  success_ne : map.glyphs.success ≠ []
  failure_ne : map.glyphs.failure ≠ []

/-- What the check that makes a map accepts. -/
theorem create_eq_ok_iff {capacity : Number} {glyphs : Glyphs} {storage : Storage}
    {map : OutcomeMap} :
    create capacity glyphs storage = .ok map ↔
      (0 < map.maxCapacity ∧ map.maxCapacity ≤ Number.maxCount) ∧
      storage.initialCeiling.blt (ofNat 1) = false ∧ storage.growthStep.blt (ofNat 1) = false ∧
      capacity = ofNat map.maxCapacity ∧
      map = { glyphs, storage, maxCapacity := map.maxCapacity } := by
  constructor
  · intro h
    unfold create at h
    split at h
    · cases h
    · next n hcapacity =>
      split at h
      · cases h
      · next hgrowth =>
        obtain rfl := Except.ok.inj h
        obtain ⟨hvalue, hpos, hle⟩ := Number.positiveInteger?_eq_some_iff.mp hcapacity
        rw [Bool.or_eq_true, not_or, Bool.not_eq_true, Bool.not_eq_true] at hgrowth
        exact ⟨⟨hpos, hle⟩, hgrowth.1, hgrowth.2, hvalue, rfl⟩
  · rintro ⟨⟨hpos, hle⟩, hceiling, hstep, rfl, hmap⟩
    have hcapacity := Number.positiveInteger?_eq_some_iff.mpr
      ⟨rfl, hpos, hle⟩
    rw [create, hcapacity]
    dsimp only
    rw [hceiling, hstep, Bool.or_false, if_neg Bool.false_ne_true, ← hmap]

theorem New.of_create {capacity : Number} {glyphs : Glyphs} {storage : Storage} {map : OutcomeMap}
    (h : create capacity glyphs storage = .ok map) (hsource : storage.allocate = .standard)
    (hcapacity : map.maxCapacity ≤ Allocator.slotLimit) (hsuccess : glyphs.success ≠ [])
    (hfailure : glyphs.failure ≠ []) : New map := by
  obtain ⟨⟨hpos, -⟩, hceiling, hstep, -, hmap⟩ := create_eq_ok_iff.mp h
  rw [hmap] at hcapacity ⊢
  exact
    { enabled := rfl
      slots_eq := rfl
      writePos_eq := rfl
      source_eq := hsource
      capacity_pos := hpos
      capacity_le := hcapacity
      ceiling_ge := hceiling
      step_ge := hstep
      success_ne := hsuccess
      failure_ne := hfailure }

variable {start map : OutcomeMap} {k : Nat} {slots : Array Text} {outcomes : List Outcome}
  {outcome : Outcome}

/-- A plan for a new map: its capacity and its glyphs with a whole ceiling and a whole step. -/
def New.plan (h : New start) (ceiling step : Nat) (hceiling : 0 < ceiling) (hstep : 0 < step) :
    Plan where
  capacity := start.maxCapacity
  ceiling := ceiling
  step := step
  glyphs := start.glyphs
  capacity_pos := h.capacity_pos
  capacity_le := h.capacity_le.trans (by decide)
  ceiling_pos := hceiling
  step_pos := hstep
  success_ne := h.success_ne
  failure_ne := h.failure_ne

theorem New.rung_zero_bounds (h : New start) {size : Nat} (hsize : start.rung 0 = ofNat size) :
    0 < size ∧ size ≤ start.maxCapacity := by
  rw [rung, Number.min_comm] at hsize
  rcases Number.min_eq_ofNat_cases hsize with rfl | ⟨hceiling, hle⟩
  · exact ⟨h.capacity_pos, Nat.le_refl _⟩
  · have hge := h.ceiling_ge
    rw [hceiling, Number.blt_ofNat, decide_eq_false_iff_not] at hge
    exact ⟨by omega, hle⟩

/-- Below the capacity the next rung is the size of the next request. -/
theorem rung_succ_of_lt {size : Nat} (hsize : start.rung k = ofNat size)
    (hlt : size < start.maxCapacity) : start.rung (k + 1) = start.growthRequest size := by
  rw [rung, hsize, if_pos (by rw [Number.blt_ofNat, decide_eq_true hlt])]
  rfl

/-- At the capacity the ladder ends. -/
theorem rung_of_full (hfull : start.rung k = ofNat start.maxCapacity) {later : Nat}
    (hle : k ≤ later) : start.rung later = ofNat start.maxCapacity := by
  induction hle with
  | refl => exact hfull
  | step hle ih => rw [rung, ih, Number.blt_ofNat, decide_eq_false (Nat.lt_irrefl _)]; rfl

/-- A whole rung lies above the one below it, up to the capacity. -/
theorem New.rung_succ_bounds (h : New start) {size next : Nat}
    (hlt : size < start.maxCapacity) (hnext : start.growthRequest size = ofNat next) :
    size < next ∧ next ≤ start.maxCapacity := by
  rcases Number.min_eq_ofNat_cases hnext with rfl | ⟨hsum, hle⟩
  · exact ⟨hlt, Nat.le_refl _⟩
  · have hsmall : size < 2 ^ 52 := by
      have hlimit : Allocator.slotLimit < 2 ^ 52 := by decide
      have hcapacity := h.capacity_le
      omega
    exact ⟨Number.lt_of_add_eq_ofNat hsmall h.step_ge hsum, hle⟩

/-!
## Shadows

The layout of a map is known for maps made from plans, whose sizes are natural numbers. Any other
map is compared with such a map, its shadow. The plan of the shadow may change from one record to
the next, so that the shadow asks for the same size each time that size is whole.
-/

variable {plan : Plan} {kept : List Outcome}

/-- What the usual source grants is whole. -/
theorem isWhole_of_granted {size : Number}
    (h : (Allocator.standard size).isGranted = true) : IsWhole size := by
  unfold Allocator.standard at h
  split at h
  · next n hsize =>
    split at h
    · next hrange => exact Number.isWhole_of_toInt? hsize hrange.1
    · cases h
  · cases h

/-- A plan with another step. -/
def Plan.withStep (plan : Plan) (step : Nat) (hstep : 0 < step) : Plan :=
  { plan with step, step_pos := hstep }

/-- The map with the storage of a plan and the usual source of slots. -/
def shadow (map : OutcomeMap) (plan : Plan) : OutcomeMap :=
  map.withStorage (plan.storage .standard)

/-- As long as nothing is asked for, any step will do. -/
theorem Layout.withStep (h : Layout plan (map.shadow plan) slots kept) {step : Nat}
    (hstep : 0 < step) :
    Layout (plan.withStep step hstep) (map.shadow (plan.withStep step hstep)) slots kept :=
  { glyphs_eq := h.glyphs_eq
    ceiling_eq := h.ceiling_eq
    step_eq := rfl
    capacity_le := h.capacity_le
    enabled := h.enabled
    slots_eq := h.slots_eq
    size_pos := h.size_pos
    size_le := h.size_le
    holds := h.holds
    writePos_eq := h.writePos_eq
    early := h.early }

/-- **On whole rungs a map does what its shadow does**: they ask for the same sizes, and the same
source answers. -/
theorem record_shadow (plan : Plan) (outcome : Outcome) (hsource : map.storage.allocate = .standard)
    (hfirst : map.slots = none → map.firstRequest = (map.shadow plan).firstRequest)
    (hgrows : ∀ slots, map.slots = some slots ∨
        map.slots = none ∧ (map.shadow plan).acquire.map.slots = some slots →
      (map.shadow plan).GrowsAlike map.storage slots) :
    map.record outcome = ((map.shadow plan).record outcome).withStorage map.storage ∧
      ((map.shadow plan).record outcome).map.storage = plan.storage .standard := by
  have hsteady : (map.shadow plan).storage.allocate.Steady := Allocator.standard_steady
  have hother : map.storage.allocate.Steady := by
    rw [hsource]
    exact Allocator.standard_steady
  have hagrees : (map.shadow plan).AgreesOn map.storage.allocate
      ((map.shadow plan).record outcome) := by
    intro request hrequest
    rw [hsource]
    rfl
  exact ⟨record_withStorage hsteady hother hfirst hgrows hagrees,
    (record_returned hsteady outcome).2⟩

/-! ## Climbing -/

/-- What a run from a new map has come to while every size it asked for was whole. -/
structure Climbed (start : OutcomeMap) (outcomes : List Outcome) (map : OutcomeMap) (k : Nat)
    (slots : Array Text) : Prop where
  storage_eq : map.storage = start.storage
  capacity_eq : map.maxCapacity = start.maxCapacity
  layout : ∃ plan, plan.glyphs = start.glyphs ∧ Layout plan (map.shadow plan) slots outcomes
  size_eq : start.rung k = ofNat slots.size
  whole : ∀ j ≤ k, (start.rung j).IsWhole
  needs : start.Needs outcomes.length k

theorem Needs.mono {count more : Nat} (h : start.Needs count k) (hle : count ≤ more) :
    start.Needs more k :=
  ⟨h.1.trans_le hle, fun j hj => Number.blt_ofNat_mono (h.2 j hj) hle⟩

namespace Climbed

theorem early (h : Climbed start outcomes map k slots) (hlt : slots.size < map.maxCapacity) :
    outcomes.length ≤ slots.size := by
  obtain ⟨plan, -, hlayout⟩ := h.layout
  exact hlayout.early hlt

theorem size_le (h : Climbed start outcomes map k slots) : slots.size ≤ map.maxCapacity := by
  obtain ⟨plan, -, hlayout⟩ := h.layout
  exact hlayout.size_le

/-- The rungs that the outcomes so far needed are whole. -/
theorem isWhole_of_needs (h : Climbed start outcomes map k slots) {j : Nat}
    (hneeds : start.Needs outcomes.length j) : (start.rung j).IsWhole := by
  rcases Nat.lt_or_ge k j with hlt | hle
  · have hshort := hneeds.2 k hlt
    rw [h.size_eq, Number.blt_ofNat, decide_eq_true_iff] at hshort
    have hfull : start.rung k = ofNat start.maxCapacity := by
      have hcapacity : ¬ slots.size < map.maxCapacity := fun hbelow => by
        have hearly := h.early hbelow
        omega
      rw [h.size_eq, ← h.capacity_eq, Nat.le_antisymm h.size_le (Nat.le_of_not_lt hcapacity)]
    exact ⟨_, rung_of_full hfull hlt.le⟩
  · exact h.whole j hle

/-- What the shadow has come to is what the map has come to. -/
theorem of_layout (plan : Plan) {after : OutcomeMap} (hglyphs : plan.glyphs = start.glyphs)
    (hlayout : Layout plan after slots outcomes) (hstorage : after.storage = plan.storage .standard)
    (hcapacity : after.maxCapacity = start.maxCapacity) (hsize : start.rung k = ofNat slots.size)
    (hwhole : ∀ j ≤ k, (start.rung j).IsWhole) (hneeds : start.Needs outcomes.length k) :
    Climbed start outcomes (after.withStorage start.storage) k slots where
  storage_eq := rfl
  capacity_eq := hcapacity
  layout := by
    have hshadow : (after.withStorage start.storage).shadow plan = after := by
      rw [shadow, ← hstorage]
      rfl
    exact ⟨plan, hglyphs, by rwa [hshadow]⟩
  size_eq := hsize
  whole := hwhole
  needs := hneeds

/-- Full slots are too few for one outcome more. -/
theorem needs_next (h : Climbed start outcomes map k slots) (hfull : outcomes.length = slots.size) :
    start.Needs (outcomes.length + 1) (k + 1) := by
  refine ⟨Nat.succ_pos _, fun j hj => ?_⟩
  rcases Nat.lt_succ_iff_lt_or_eq.mp hj with hlt | rfl
  · exact Number.blt_ofNat_mono (h.needs.2 j hlt) (Nat.le_succ _)
  · rw [h.size_eq, Number.blt_ofNat, decide_eq_true_iff]
    omega

/-- A record goes into the map as into its shadow, if they agree on the next size. -/
theorem enters (h : Climbed start outcomes map k slots) (hstart : New start)
    (hlayout : Layout plan (map.shadow plan) slots outcomes)
    (hgrows : (map.shadow plan).GrowsAlike map.storage slots) (outcome : Outcome) :
    ∃ step, Enters plan (map.shadow plan) slots outcomes outcome step ∧
      map.record outcome = step.withStorage start.storage ∧
      step.map.storage = plan.storage .standard := by
  have hslots : map.slots = some slots := hlayout.slots_eq
  have hsource : map.storage.allocate = .standard := by rw [h.storage_eq, hstart.source_eq]
  have hgrowing : ∀ other, map.slots = some other ∨
      map.slots = none ∧ (map.shadow plan).acquire.map.slots = some other →
        (map.shadow plan).GrowsAlike map.storage other := by
    rintro other (hother | ⟨hnone, -⟩)
    · obtain rfl := Option.some.inj (hslots.symm.trans hother)
      exact hgrows
    · rw [hslots] at hnone
      cases hnone
  obtain ⟨hrecord, hstorage⟩ := record_shadow plan outcome hsource
    (fun hnone => by rw [hslots] at hnone; cases hnone) hgrowing
  refine ⟨_, ?_, h.storage_eq ▸ hrecord, hstorage⟩
  rw [hlayout.record_eq]
  exact hlayout.append_enters Allocator.standard_exact outcome

/-- While there is room, or the capacity is reached, nothing is asked for. -/
theorem record_of_settled (h : Climbed start outcomes map k slots) (hstart : New start)
    (hsettled : outcomes.length = slots.size → slots.size = map.maxCapacity) (outcome : Outcome) :
    (∃ slots', Climbed start (outcomes ++ [outcome]) (map.record outcome).map k slots') ∧
      (map.record outcome).requests = [] := by
  obtain ⟨plan, hglyphs, hlayout⟩ := h.layout
  have hgrows : (map.shadow plan).GrowsAlike map.storage slots := by
    intro hfull hbelow
    have hposition := hlayout.writePos_eq
    rw [Ring.writePosition_of_le (h.early hbelow), hfull] at hposition
    exact absurd (hsettled hposition.symm) (Nat.ne_of_lt hbelow)
  obtain ⟨step, henters, hrecord, hstorage⟩ := h.enters hstart hlayout hgrows outcome
  rw [hrecord]
  cases henters with
  | @written after slots' settled layout size_eq capacity_eq =>
    refine ⟨⟨slots', of_layout plan hglyphs layout hstorage (capacity_eq.trans h.capacity_eq)
      (size_eq ▸ h.size_eq) h.whole ?_⟩, rfl⟩
    rw [List.length_append]
    exact h.needs.mono (Nat.le_add_right _ _)
  | grown full below => exact absurd (hsettled full) (Nat.ne_of_lt below)
  | refused reason full below => exact absurd (hsettled full) (Nat.ne_of_lt below)
  | failed reason full below => exact absurd (hsettled full) (Nat.ne_of_lt below)

/-- A full map below its capacity climbs to the next rung if that is whole. -/
theorem record_of_whole (h : Climbed start outcomes map k slots) (hstart : New start)
    (hfull : outcomes.length = slots.size) (hbelow : slots.size < map.maxCapacity)
    (hwhole : (start.rung (k + 1)).IsWhole) (outcome : Outcome) :
    (∃ slots', Climbed start (outcomes ++ [outcome]) (map.record outcome).map (k + 1) slots') ∧
      ∀ request ∈ (map.record outcome).requests, request.granted = true := by
  obtain ⟨plan, hglyphs, hlayout⟩ := h.layout
  obtain ⟨next, hnext⟩ := hwhole
  have hcapacity := h.capacity_eq
  have hrequest : start.growthRequest slots.size = ofNat next := by
    rw [← rung_succ_of_lt h.size_eq (hcapacity ▸ hbelow), hnext]
  obtain ⟨hmore, hnext_le⟩ := hstart.rung_succ_bounds (hcapacity ▸ hbelow) hrequest
  -- The step of the shadow is what is missing to the next rung.
  have hstep : 0 < next - slots.size := Nat.sub_pos_of_lt hmore
  have hlayout' := hlayout.withStep hstep
  have hgrowth : growthSize (plan.withStep _ hstep) (map.shadow (plan.withStep _ hstep))
      slots.size = next := by
    show Nat.min (slots.size + (next - slots.size)) map.maxCapacity = next
    rw [Nat.add_sub_cancel' hmore.le, hcapacity]
    exact Nat.min_eq_left hnext_le
  have hgrows : (map.shadow (plan.withStep _ hstep)).GrowsAlike map.storage slots := by
    intro _ _
    rw [hlayout'.growthRequest_eq, hgrowth, ← hrequest, growthRequest, growthRequest,
      ← hcapacity, ← h.storage_eq]
    rfl
  have hgranted : Allocator.standard (ofNat next) = .granted next :=
    Allocator.standard_supplies next (hnext_le.trans hstart.capacity_le)
  obtain ⟨step, henters, hrecord, hstorage⟩ := h.enters hstart hlayout' hgrows outcome
  rw [hrecord]
  cases henters with
  | @written after slots' settled => exact absurd (settled hfull) (Nat.ne_of_lt hbelow)
  | @grown after slots' full below answer layout size_eq capacity_eq =>
    refine ⟨⟨slots', of_layout (plan.withStep _ hstep) hglyphs layout hstorage
      (capacity_eq.trans hcapacity) (by rw [hnext, size_eq, hgrowth]) ?_ ?_⟩,
      fun request hrequest => ?_⟩
    · intro j hj
      rcases Nat.le_succ_iff.mp hj with hle | rfl
      · exact h.whole j hle
      · exact ⟨next, hnext⟩
    · rw [List.length_append]
      exact h.needs_next hfull
    · rw [List.mem_singleton.mp hrequest]
      rfl
  | refused reason full below answer =>
    rw [hgrowth] at answer
    exact Allocation.noConfusion (hgranted.symm.trans answer)
  | failed reason full below answer =>
    rw [hgrowth] at answer
    exact Allocation.noConfusion (hgranted.symm.trans answer)

/-- If the next rung is not whole, it is refused. -/
theorem record_of_not_whole (h : Climbed start outcomes map k slots) (hstart : New start)
    (hfull : outcomes.length = slots.size) (hbelow : slots.size < map.maxCapacity)
    (hbroken : ¬ (start.rung (k + 1)).IsWhole) (outcome : Outcome) :
    ∃ request ∈ (map.record outcome).requests, request.granted = false := by
  obtain ⟨plan, -, hlayout⟩ := h.layout
  have hsource : map.storage.allocate = .standard := by rw [h.storage_eq, hstart.source_eq]
  have hsteady : map.storage.allocate.Steady := hsource ▸ Allocator.standard_steady
  have hrequest : map.growthRequest slots.size = start.rung (k + 1) := by
    rw [rung_succ_of_lt h.size_eq (h.capacity_eq ▸ hbelow), growthRequest, growthRequest,
      h.capacity_eq, h.storage_eq]
  have henabled : map.enabled = true := hlayout.enabled
  have hslots : map.slots = some slots := hlayout.slots_eq
  have hfullPosition : map.writePos = slots.size := by
    have hposition : map.writePos = Ring.writePosition slots.size outcomes.length :=
      hlayout.writePos_eq
    rw [hposition, hfull, Ring.writePosition_of_le (Nat.le_refl _)]
  have hrequests : (map.record outcome).requests =
      [⟨start.rung (k + 1), (Allocator.standard (start.rung (k + 1))).isGranted⟩] := by
    rw [record_of_slots henabled hslots, append_eq hsteady, if_pos hfullPosition,
      ← hrequest, ← hsource, ← grow_requests hsteady (Nat.not_le.mpr hbelow)]
    rfl
  refine ⟨_, by rw [hrequests]; exact List.mem_singleton_self _, ?_⟩
  exact Bool.eq_false_iff.mpr fun hgranted => hbroken (isWhole_of_granted hgranted)

end Climbed

/-! ## The first record -/

theorem New.record_of_whole (h : New start) (hwhole : (start.rung 0).IsWhole) (outcome : Outcome) :
    (∃ slots, Climbed start [outcome] (start.record outcome).map 0 slots) ∧
      ∀ request ∈ (start.record outcome).requests, request.granted = true := by
  obtain ⟨size, hsize⟩ := hwhole
  obtain ⟨hpos, hle⟩ := h.rung_zero_bounds hsize
  -- The ceiling of the shadow is the first rung; its step does not matter yet.
  set plan := h.plan size 1 hpos Nat.one_pos with hplan
  have hfirstSize : plan.firstSize = size := Nat.min_eq_right hle
  have hwaiting : Waiting plan (start.shadow plan) :=
    { glyphs_eq := rfl
      ceiling_eq := rfl
      step_eq := rfl
      capacity_le := Nat.le_refl _
      enabled := h.enabled
      slots_eq := h.slots_eq
      writePos_eq := h.writePos_eq
      capacity_eq := rfl }
  have hrequest : (start.shadow plan).firstRequest = ofNat size := by
    rw [hwaiting.firstRequest_eq rfl, hfirstSize]
  have hgranted : Allocator.standard (ofNat size) = .granted size :=
    Allocator.standard_supplies size (hle.trans h.capacity_le)
  have hfirst : start.slots = none → start.firstRequest = (start.shadow plan).firstRequest := by
    intro _
    rw [hrequest, ← hsize]
    rfl
  have hgrows : ∀ slots, start.slots = some slots ∨
      start.slots = none ∧ (start.shadow plan).acquire.map.slots = some slots →
        (start.shadow plan).GrowsAlike start.storage slots := by
    rintro slots (hslots | ⟨-, hslots⟩) hfull
    · rw [h.slots_eq] at hslots
      cases hslots
    · have hanswer : (start.shadow plan).storage.allocate (ofNat size) = .granted size := hgranted
      have hposition : (start.shadow plan).writePos = 0 := h.writePos_eq
      simp only [acquire, hrequest, hanswer] at hslots
      obtain rfl := Option.some.inj hslots
      rw [hposition, Array.size_replicate] at hfull
      omega
  obtain ⟨hrecord, hstorage⟩ := record_shadow plan outcome h.source_eq hfirst hgrows
  have hopens := hwaiting.record_opens Allocator.standard_exact outcome
  generalize (start.shadow plan).record outcome = step at hrecord hstorage hopens
  rw [hrecord]
  cases hopens with
  | @granted after slots answer layout size_eq capacity_eq =>
    refine ⟨⟨slots, Climbed.of_layout plan rfl layout hstorage capacity_eq
      (by rw [hsize, size_eq, hfirstSize]) ?_ ⟨Nat.one_pos, by simp⟩⟩, fun request hrequest => ?_⟩
    · intro j hj
      rw [Nat.le_zero.mp hj]
      exact ⟨size, hsize⟩
    · rw [List.mem_singleton.mp hrequest]
      rfl
  | refused reason answer =>
    rw [hfirstSize] at answer
    exact Allocation.noConfusion (hgranted.symm.trans answer)
  | failed reason answer =>
    rw [hfirstSize] at answer
    exact Allocation.noConfusion (hgranted.symm.trans answer)

theorem New.record_of_not_whole (h : New start) (hbroken : ¬ (start.rung 0).IsWhole)
    (outcome : Outcome) : ∃ request ∈ (start.record outcome).requests, request.granted = false := by
  have hsteady : start.storage.allocate.Steady := h.source_eq ▸ Allocator.standard_steady
  cases hanswer : start.storage.allocate start.firstRequest with
  | granted n =>
    refine absurd (isWhole_of_granted ?_) hbroken
    rw [← h.source_eq]
    exact congrArg Allocation.isGranted hanswer
  | refused reason =>
    have hrecord : start.record outcome =
        { map := { start with enabled := false }
          events := [.allocationRefused reason start.firstRequest] } := by
      simp [OutcomeMap.record, acquire, h.enabled, h.slots_eq, hanswer]
    exact ⟨_, by rw [hrecord]; exact List.mem_singleton_self _, rfl⟩
  | failed reason => exact absurd hanswer (hsteady _ _)

/-! ## Runs -/

/-- Every request of a run of records is granted. -/
def Granted (start : OutcomeMap) (outcomes : List Outcome) : Prop :=
  ∀ before outcome rest, outcomes = before ++ outcome :: rest →
    ∀ request ∈ ((start.recordEach before).record outcome).requests, request.granted = true

/-- Every rung that so many outcomes need is whole. -/
def Sound (start : OutcomeMap) (count : Nat) : Prop :=
  ∀ k, start.Needs count k → (start.rung k).IsWhole

theorem granted_concat :
    start.Granted (outcomes ++ [outcome]) ↔ start.Granted outcomes ∧
      ∀ request ∈ ((start.recordEach outcomes).record outcome).requests,
        request.granted = true := by
  constructor
  · intro h
    refine ⟨fun before other rest houtcomes => ?_, h outcomes outcome [] rfl⟩
    exact h before other (rest ++ [outcome]) (by rw [houtcomes, List.append_assoc]; rfl)
  · rintro ⟨hbefore, hlast⟩ before other rest houtcomes
    rcases List.eq_nil_or_concat rest with rfl | ⟨rest, last, rfl⟩
    · obtain ⟨rfl, hother⟩ := List.append_inj' houtcomes rfl
      rw [← List.singleton_inj.mp hother]
      exact hlast
    · rw [List.concat_eq_append, ← List.cons_append, ← List.append_assoc] at houtcomes
      exact hbefore before other rest (List.append_inj' houtcomes rfl).1

theorem granted_nil : start.Granted [] := by
  intro before outcome rest houtcomes
  simp at houtcomes

theorem not_granted_of_refused
    (h : ∃ request ∈ ((start.recordEach outcomes).record outcome).requests,
      request.granted = false) : ¬ start.Granted (outcomes ++ [outcome]) := by
  obtain ⟨request, hrequest, hrefused⟩ := h
  intro hgranted
  exact absurd ((granted_concat.mp hgranted).2 request hrequest) (by simp [hrefused])

/-- One more record climbs on a whole rung, or is refused one that is none. -/
theorem Climbed.record (h : Climbed start outcomes map k slots) (hstart : New start)
    (outcome : Outcome) :
    ((∃ k' slots', Climbed start (outcomes ++ [outcome]) (map.record outcome).map k' slots') ∧
        ∀ request ∈ (map.record outcome).requests, request.granted = true) ∨
      (¬ start.Sound (outcomes.length + 1) ∧
        ∃ request ∈ (map.record outcome).requests, request.granted = false) := by
  by_cases hsettled : outcomes.length = slots.size → slots.size = map.maxCapacity
  · obtain ⟨⟨slots', hclimbed⟩, hnone⟩ := h.record_of_settled hstart hsettled outcome
    exact .inl ⟨⟨k, slots', hclimbed⟩, by simp [hnone]⟩
  · obtain ⟨hfull, hbelow⟩ := Classical.not_imp.mp hsettled
    have hbelow : slots.size < map.maxCapacity := lt_of_le_of_ne h.size_le hbelow
    by_cases hwhole : (start.rung (k + 1)).IsWhole
    · obtain ⟨⟨slots', hclimbed⟩, hgranted⟩ := h.record_of_whole hstart hfull hbelow hwhole outcome
      exact .inl ⟨⟨k + 1, slots', hclimbed⟩, hgranted⟩
    · exact .inr ⟨fun hsound => hwhole (hsound _ (h.needs_next hfull)),
        h.record_of_not_whole hstart hfull hbelow hwhole outcome⟩

/-- **A run climbs on whole rungs, or it was refused one that is none.** -/
theorem New.runs (h : New start) (hne : outcomes ≠ []) :
    ((∃ k slots, Climbed start outcomes (start.recordEach outcomes) k slots) ∧
        start.Granted outcomes) ∨
      (¬ start.Sound outcomes.length ∧ ¬ start.Granted outcomes) := by
  induction outcomes using List.reverseRecOn with
  | nil => exact absurd rfl hne
  | append_singleton outcomes outcome ih =>
    rw [recordEach_concat, List.length_append]
    rcases eq_or_ne outcomes [] with rfl | hbefore
    · by_cases hwhole : (start.rung 0).IsWhole
      · obtain ⟨⟨slots, hclimbed⟩, hgranted⟩ := h.record_of_whole hwhole outcome
        exact .inl ⟨⟨0, slots, hclimbed⟩, granted_concat.mpr ⟨granted_nil, hgranted⟩⟩
      · refine .inr ⟨fun hsound => hwhole (hsound 0 ⟨Nat.one_pos, by simp⟩), ?_⟩
        exact not_granted_of_refused (h.record_of_not_whole hwhole outcome)
    · rcases ih hbefore with ⟨⟨k, slots, hclimbed⟩, hgranted⟩ | ⟨hunsound, hrefused⟩
      · rcases hclimbed.record h outcome with ⟨hnext, hlast⟩ | ⟨hunsound, hrefused⟩
        · exact .inl ⟨hnext, granted_concat.mpr ⟨hgranted, hlast⟩⟩
        · exact .inr ⟨hunsound, not_granted_of_refused hrefused⟩
      · refine .inr ⟨fun hsound => hunsound fun k hneeds => ?_, fun hgranted => ?_⟩
        · exact hsound k (hneeds.mono (Nat.le_succ _))
        · exact hrefused (granted_concat.mp hgranted).1

/-- A run that climbed on whole rungs keeps what it should. -/
theorem Climbed.unhampered (h : Climbed start outcomes (start.recordEach outcomes) k slots)
    (hstart : New start) (hgranted : start.Granted outcomes) : Unhampered start outcomes := by
  obtain ⟨plan, hglyphs, hlayout⟩ := h.layout
  have hsteady : start.storage.allocate.Steady := hstart.source_eq ▸ Allocator.standard_steady
  have hrender : (start.recordEach outcomes).render =
      window plan.glyphs (start.recordEach outcomes).maxCapacity outcomes := hlayout.render_eq
  exact
    { granted := by
        intro before outcome rest houtcomes
        have hbefore : (start.recordEach before).storage.allocate.Steady := by
          rwa [storage_recordEach hsteady]
        exact ⟨(record_returned hbefore outcome).1, hgranted before outcome rest houtcomes⟩
      enabled := hlayout.enabled
      maxCapacity_eq := h.capacity_eq
      render_eq := by rw [hrender, hglyphs, h.capacity_eq] }

theorem New.unhampered_nil (h : New start) : Unhampered start [] where
  granted := by
    intro before outcome rest houtcomes
    simp at houtcomes
  enabled := h.enabled
  maxCapacity_eq := rfl
  render_eq := by
    have hrender : start.render = [] := by simp [render, h.slots_eq]
    simp [recordEach, hrender, window]

/-- A new map works as long as the rungs it needs are whole. -/
theorem New.unhampered_iff (h : New start) (outcomes : List Outcome) :
    Unhampered start outcomes ↔ start.Sound outcomes.length := by
  rcases eq_or_ne outcomes [] with rfl | hne
  · have hnothing : start.Sound 0 := fun k hneeds => absurd hneeds.1 (Nat.lt_irrefl 0)
    exact iff_of_true h.unhampered_nil hnothing
  · constructor
    · intro hrun
      rcases h.runs hne with ⟨⟨k, slots, hclimbed⟩, -⟩ | ⟨-, hrefused⟩
      · exact fun j => hclimbed.isWhole_of_needs
      · exact absurd (fun before outcome rest houtcomes =>
          (hrun.granted before outcome rest houtcomes).2) hrefused
    · intro hsound
      rcases h.runs hne with ⟨⟨k, slots, hclimbed⟩, hgranted⟩ | ⟨hunsound, -⟩
      · exact hclimbed.unhampered h hgranted
      · exact absurd hsound hunsound

/-- All rungs are whole if ceiling and step are natural numbers or infinite. -/
theorem New.isWhole_rung (h : New start) (hceiling : start.storage.initialCeiling.IsSize)
    (hstep : start.storage.growthStep.IsSize) (k : Nat) : (start.rung k).IsWhole := by
  induction k with
  | zero =>
    rw [rung, Number.min_comm]
    exact hceiling.min_ofNat _
  | succ k ih =>
    obtain ⟨size, hsize⟩ := ih
    rw [rung, hsize]
    split
    · exact hstep.min_add_ofNat size (h.capacity_le.trans (by decide))
    · exact Number.isWhole_ofNat size

/-- **Recording works as long as the rungs of the ladder are whole**: no request is refused, the map
stays on, keeps its capacity and shows the last outcomes, exactly if every size that the run needs
is a natural number. All of them are if the ceiling and the step are natural numbers or infinite. -/
theorem unhampered_recordEach {capacity : Number} {glyphs : Glyphs} {storage : Storage}
    (hcreate : create capacity glyphs storage = .ok map) (hsource : storage.allocate = .standard)
    (hcapacity : map.maxCapacity ≤ Allocator.slotLimit) (hsuccess : glyphs.success ≠ [])
    (hfailure : glyphs.failure ≠ []) :
    (∀ outcomes, Unhampered map outcomes ↔
      ∀ k, map.Needs outcomes.length k → (map.rung k).IsWhole) ∧
    (storage.initialCeiling.IsSize → storage.growthStep.IsSize →
      ∀ outcomes, Unhampered map outcomes) := by
  have hnew := New.of_create hcreate hsource hcapacity hsuccess hfailure
  obtain ⟨-, -, -, -, hmap⟩ := create_eq_ok_iff.mp hcreate
  have hstorage : map.storage = storage := by rw [hmap]
  refine ⟨hnew.unhampered_iff, fun hceiling hstep outcomes => ?_⟩
  rw [← hstorage] at hceiling hstep
  exact (hnew.unhampered_iff outcomes).mpr fun k _ => hnew.isWhole_rung hceiling hstep k

/-- A step of one and a half is accepted; from two slots the map asks for three and a half when the
third outcome arrives. -/
theorem unhampered_recordEach_fractional_step :
    ∃ map, create (ofNat 5) .standard
        { initialCeiling := ofNat 2, growthStep := .finite (3 / 2) } = .ok map ∧
      Unhampered map [.success, .failure] ∧ ¬ Unhampered map [.success, .failure, .success] := by
  have hcreate : create (ofNat 5) .standard
      { initialCeiling := ofNat 2, growthStep := .finite (3 / 2) } =
        .ok
          { glyphs := .standard
            storage := { initialCeiling := ofNat 2, growthStep := .finite (3 / 2) }
            maxCapacity := 5 } :=
    create_eq_ok_iff.mpr ⟨by decide, by decide +kernel, by decide +kernel, rfl, rfl⟩
  obtain ⟨hrun, -⟩ := unhampered_recordEach hcreate rfl (by decide) (by decide) (by decide)
  refine ⟨_, hcreate, (hrun _).mpr ?_, fun hthree => ?_⟩
  · rintro k ⟨-, hneeds⟩
    rcases Nat.eq_zero_or_pos k with rfl | hpos
    · decide +kernel
    · exact absurd (hneeds 0 hpos) (by decide +kernel)
  · have hwhole := (hrun _).mp hthree 1 ⟨by decide, by decide +kernel⟩
    exact absurd hwhole (by decide +kernel)

/-- A ceiling that is not a number is accepted, and the first request switches the map off. With
such a step the second request is refused, and the first slots become the capacity. -/
theorem recordEach_hampered_by_nan :
    (∃ map, create (ofNat 1) .standard { initialCeiling := .nan } = .ok map ∧
      (map.recordEach [.success]).enabled = false ∧
      (map.recordEach [.success]).render ≠ window .standard 1 [.success]) ∧
    ∃ map, create (ofNat 3) .standard { initialCeiling := ofNat 2, growthStep := .nan } = .ok map ∧
      (map.recordEach [.success, .failure, .success]).maxCapacity = 2 ∧
      (map.recordEach [.success, .failure, .success]).render ≠
        window .standard 3 [.success, .failure, .success] :=
  ⟨⟨_, rfl, by decide +kernel, by decide +kernel⟩, _, rfl, by decide +kernel, by decide +kernel⟩

end OutcomeMap

end Probing
