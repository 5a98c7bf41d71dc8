import Mathlib.Algebra.Order.Floor.Div
import Probing.Proofs.OutcomeMap.Supply

/-!
# The requests of an outcome map

An outcome map asks for slots only when the next outcome needs one: for the first block when the
first outcome arrives, and for more when its slots are full, nothing was overwritten and the
capacity is not reached. Each request is larger than what the map has, and a refusal is final: the
map is off, or its capacity is reached. How often a map may still ask is therefore bounded by what
is missing to its capacity, and this bound falls with every request.

## Main definitions

* `OutcomeMap.Request`, `OutcomeMap.Step.requests`, `OutcomeMap.requestsAll`: the requests of a
  step, and those of a run
* `OutcomeMap.Stage`, `OutcomeMap.Moves`: where a run can be, and what one record does from there
* `OutcomeMap.budget`: how many requests a map may still make
* `OutcomeMap.Lazy`: a run that asks as late and as seldom as that

## Main results

* `OutcomeMap.record_answers`, `OutcomeMap.record_withStorage`: the requests of a record are what it
  asks of its storage, and all that it asks
* `OutcomeMap.Stage.receive`: one record moves on from every stage
* `OutcomeMap.lazy_recordAll`: every run asks lazily
-/

namespace Probing

/-- Slots are granted. -/
def Allocation.isGranted : Allocation → Bool
  | granted _ => true
  | refused _ | failed _ => false

namespace OutcomeMap

/-! ## Requests -/

/-- A request for slots, and whether it was granted. -/
structure Request where
  size : Number
  granted : Bool
deriving DecidableEq

/-- The request that an event tells of. -/
def Event.request : Event → Request
  | allocated size _ => ⟨size, true⟩
  | allocationRefused _ size => ⟨size, false⟩
  | extended _ size _ => ⟨size, true⟩
  | growthRefused _ _ size => ⟨size, false⟩

/-- The requests that were granted or refused in a step. -/
def Step.requests (step : Step) : List Request :=
  step.events.map Event.request

/-- The requests of a run of records from a map on. -/
def requestsAll (map : OutcomeMap) : List Arrival → List Request
  | [] => []
  | arrival :: rest => (map.receive arrival).requests ++ (map.receive arrival).map.requestsAll rest

/-- The same step with another source of slots. -/
def Step.withSource (step : Step) (source : Allocator) : Step :=
  { step with map := step.map.withSource source }

/-- The map with another storage. -/
def withStorage (map : OutcomeMap) (storage : Storage) : OutcomeMap :=
  { map with storage }

/-- The same step with another storage. -/
def Step.withStorage (step : Step) (storage : Storage) : Step :=
  { step with map := step.map.withStorage storage }

variable {map : OutcomeMap} {slots : Array Text} {other : Storage} {outcome : Outcome}

/-! ## The requests are what is asked of the source -/

/-- Another source of slots answers the requests of a step as the source of a map does. -/
def AgreesOn (map : OutcomeMap) (other : Allocator) (step : Step) : Prop :=
  ∀ request ∈ step.requests, other request.size = map.storage.allocate request.size

/-- A full map asks for the same size with another storage. -/
def GrowsAlike (map : OutcomeMap) (other : Storage) (slots : Array Text) : Prop :=
  map.writePos = slots.size → slots.size < map.maxCapacity →
    (map.withStorage other).growthRequest slots.size = map.growthRequest slots.size

/-- The requests of a step are told as the source of a map answers them. -/
def Answers (map : OutcomeMap) (step : Step) : Prop :=
  ∀ request ∈ step.requests, request.granted = (map.storage.allocate request.size).isGranted

theorem acquire_requests (hsteady : map.storage.allocate.Steady) :
    map.acquire.requests =
      [⟨map.firstRequest, (map.storage.allocate map.firstRequest).isGranted⟩] := by
  unfold acquire
  dsimp only
  cases hanswer : map.storage.allocate map.firstRequest with
  | granted n => rfl
  | refused reason => rfl
  | failed reason => exact absurd hanswer (hsteady _ _)

theorem acquire_withStorage (hsteady : map.storage.allocate.Steady)
    (hsize : (map.withStorage other).firstRequest = map.firstRequest)
    (h : map.AgreesOn other.allocate map.acquire) :
    (map.withStorage other).acquire = map.acquire.withStorage other := by
  have hagrees : other.allocate map.firstRequest = map.storage.allocate map.firstRequest :=
    h ⟨_, _⟩ (by rw [acquire_requests hsteady]; exact List.mem_singleton_self _)
  have hanswer : (map.withStorage other).storage.allocate map.firstRequest =
      map.storage.allocate map.firstRequest := hagrees
  unfold acquire
  dsimp only
  rw [hsize, hanswer]
  cases map.storage.allocate map.firstRequest <;> rfl

theorem grow_requests (hsteady : map.storage.allocate.Steady)
    (hroom : ¬ map.maxCapacity ≤ slots.size) :
    (map.grow slots).requests = [⟨map.growthRequest slots.size,
      (map.storage.allocate (map.growthRequest slots.size)).isGranted⟩] := by
  unfold grow
  rw [if_neg hroom]
  dsimp only
  cases hanswer : map.storage.allocate (map.growthRequest slots.size) with
  | granted n => rfl
  | refused reason => rfl
  | failed reason => exact absurd hanswer (hsteady _ _)

theorem grow_of_full (hfull : map.maxCapacity ≤ slots.size) : map.grow slots = { map } :=
  if_pos hfull

theorem grow_answers (hsteady : map.storage.allocate.Steady) (slots : Array Text) :
    map.Answers (map.grow slots) := by
  intro request hrequest
  by_cases hfull : map.maxCapacity ≤ slots.size
  · rw [grow_of_full hfull] at hrequest
    cases hrequest
  · rw [grow_requests hsteady hfull] at hrequest
    rw [List.mem_singleton.mp hrequest]

theorem grow_withStorage (hsteady : map.storage.allocate.Steady)
    (hsize : slots.size < map.maxCapacity →
      (map.withStorage other).growthRequest slots.size = map.growthRequest slots.size)
    (h : map.AgreesOn other.allocate (map.grow slots)) :
    (map.withStorage other).grow slots = (map.grow slots).withStorage other := by
  by_cases hfull : map.maxCapacity ≤ slots.size
  · have hfull' : (map.withStorage other).maxCapacity ≤ slots.size := hfull
    rw [grow_of_full hfull, grow_of_full hfull']
    rfl
  · have hagrees : other.allocate (map.growthRequest slots.size) =
        map.storage.allocate (map.growthRequest slots.size) :=
      h ⟨_, _⟩ (by rw [grow_requests hsteady hfull]; exact List.mem_singleton_self _)
    have hanswer : (map.withStorage other).storage.allocate (map.growthRequest slots.size) =
        map.storage.allocate (map.growthRequest slots.size) := hagrees
    have hroom : ¬ (map.withStorage other).maxCapacity ≤ slots.size := hfull
    unfold grow
    rw [if_neg hfull, if_neg hroom]
    dsimp only
    rw [hsize (Nat.lt_of_not_le hfull), hanswer]
    cases map.storage.allocate (map.growthRequest slots.size) <;> rfl

/-- Only a full map grows before it writes. -/
theorem append_eq (hsteady : map.storage.allocate.Steady) (slots : Array Text) (outcome : Outcome) :
    map.append slots outcome =
      { (if map.writePos = slots.size then map.grow slots else { map }) with
        map := (if map.writePos = slots.size then map.grow slots else { map }).map.write
          (map.glyphs.ofOutcome outcome) } := by
  have hreturned := (grow_returned hsteady slots).1
  unfold append
  dsimp only
  split
  · rw [hreturned]
  · rfl

theorem append_answers (hsteady : map.storage.allocate.Steady) (slots : Array Text)
    (outcome : Outcome) : map.Answers (map.append slots outcome) := by
  rw [append_eq hsteady]
  split
  · exact grow_answers hsteady slots
  · intro request hrequest
    cases hrequest

theorem append_withStorage (hsteady : map.storage.allocate.Steady) (hother : other.allocate.Steady)
    (hgrows : map.GrowsAlike other slots)
    (h : map.AgreesOn other.allocate (map.append slots outcome)) :
    (map.withStorage other).append slots outcome =
      (map.append slots outcome).withStorage other := by
  have hposition : (map.withStorage other).writePos = map.writePos := rfl
  rw [append_eq hsteady] at h ⊢
  rw [append_eq hother, hposition]
  split at h
  · next hfull =>
    rw [if_pos hfull, if_pos hfull, grow_withStorage hsteady (hgrows hfull) h]
    rfl
  · next hroom =>
    rw [if_neg hroom, if_neg hroom]
    rfl

theorem record_of_slots (henabled : map.enabled = true) (hslots : map.slots = some slots) :
    map.record outcome = map.append slots outcome := by
  simp [OutcomeMap.record, henabled, hslots]

theorem record_of_no_slots (henabled : map.enabled = true) (hslots : map.slots = none)
    (hfirst : map.acquire.map.slots = none) : map.record outcome = map.acquire := by
  simp [OutcomeMap.record, henabled, hslots, hfirst]

theorem record_of_first_slots (henabled : map.enabled = true) (hslots : map.slots = none)
    (hfirst : map.acquire.map.slots = some slots) :
    map.record outcome =
      { map.acquire.map.append slots outcome with
        events := map.acquire.events ++ (map.acquire.map.append slots outcome).events } := by
  simp [OutcomeMap.record, henabled, hslots, hfirst]

/-- **The requests of a record are told as they were answered.** -/
theorem record_answers (hsteady : map.storage.allocate.Steady) (outcome : Outcome) :
    map.Answers (map.record outcome) := by
  cases henabled : map.enabled with
  | false =>
    intro request hrequest
    simp [OutcomeMap.record, henabled, Step.requests] at hrequest
  | true =>
    have hacquire : map.Answers map.acquire := by
      intro request hrequest
      rw [acquire_requests hsteady] at hrequest
      rw [List.mem_singleton.mp hrequest]
    cases hslots : map.slots with
    | some slots =>
      rw [record_of_slots henabled hslots]
      exact append_answers hsteady slots outcome
    | none =>
      cases hfirst : map.acquire.map.slots with
      | none =>
        rw [record_of_no_slots henabled hslots hfirst]
        exact hacquire
      | some slots =>
        have hstorage := (acquire_returned hsteady).2
        have happend : map.acquire.map.Answers (map.acquire.map.append slots outcome) :=
          append_answers (by rwa [hstorage]) slots outcome
        rw [record_of_first_slots henabled hslots hfirst]
        intro request hrequest
        rw [Step.requests, List.map_append, List.mem_append] at hrequest
        rcases hrequest with hrequest | hrequest
        · exact hacquire request hrequest
        · rw [← hstorage]
          exact happend request hrequest

/-- **A record looks at its storage only through its requests**: with another storage it does the
same if it asks for the same sizes there and gets the same answers. -/
theorem record_withStorage (hsteady : map.storage.allocate.Steady) (hother : other.allocate.Steady)
    (hfirst : map.slots = none → (map.withStorage other).firstRequest = map.firstRequest)
    (hgrows : ∀ slots, map.slots = some slots ∨
        map.slots = none ∧ map.acquire.map.slots = some slots →
      map.GrowsAlike other slots)
    (h : map.AgreesOn other.allocate (map.record outcome)) :
    (map.withStorage other).record outcome = (map.record outcome).withStorage other := by
  cases henabled : map.enabled with
  | false =>
    have henabled' : (map.withStorage other).enabled = false := henabled
    simp [OutcomeMap.record, henabled, henabled', Step.withStorage]
  | true =>
    have henabled' : (map.withStorage other).enabled = true := henabled
    cases hslots : map.slots with
    | some slots =>
      have hslots' : (map.withStorage other).slots = some slots := hslots
      rw [record_of_slots henabled hslots] at h ⊢
      rw [record_of_slots henabled' hslots',
        append_withStorage hsteady hother (hgrows slots (.inl hslots)) h]
    | none =>
      have hslots' : (map.withStorage other).slots = none := hslots
      have hacquire := acquire_withStorage hsteady (hfirst hslots)
      cases hblock : map.acquire.map.slots with
      | none =>
        rw [record_of_no_slots henabled hslots hblock] at h ⊢
        have hblock' : (map.withStorage other).acquire.map.slots = none := by
          rw [hacquire h]
          exact hblock
        rw [record_of_no_slots henabled' hslots' hblock', hacquire h]
      | some slots =>
        obtain ⟨first, enabled, hmap⟩ := acquire_map map
        have hstorage : map.acquire.map.storage = map.storage := by rw [hmap]
        rw [record_of_first_slots henabled hslots hblock] at h ⊢
        have hagrees : map.AgreesOn other.allocate map.acquire := fun request hrequest =>
          h request (by
            rw [Step.requests, List.map_append]
            exact List.mem_append_left _ hrequest)
        have hrest : map.acquire.map.AgreesOn other.allocate
            (map.acquire.map.append slots outcome) := by
          intro request hrequest
          rw [hstorage]
          refine h request ?_
          rw [Step.requests, List.map_append]
          exact List.mem_append_right _ hrequest
        have hgrows' : map.acquire.map.GrowsAlike other slots := by
          have hgrows := hgrows slots (.inr ⟨hslots, hblock⟩)
          rw [hmap]
          exact hgrows
        have hblock' : (map.withStorage other).acquire.map.slots = some slots := by
          rw [hacquire hagrees]
          exact hblock
        have happend : (map.acquire.map.withStorage other).append slots outcome =
            (map.acquire.map.append slots outcome).withStorage other :=
          append_withStorage (by rwa [hstorage]) hother hgrows' hrest
        rw [record_of_first_slots henabled' hslots' hblock', hacquire hagrees]
        simp only [Step.withStorage] at happend ⊢
        rw [happend]

/-- **The requests of a record are all that it asks**: with a source that gives the same answers to
them it does the same. -/
theorem record_withSource {source : Allocator} (hsteady : map.storage.allocate.Steady)
    (hsource : source.Steady) (h : map.AgreesOn source (map.record outcome)) :
    (map.withSource source).record outcome = (map.record outcome).withSource source := by
  have hrecord : (map.withSource source).record outcome =
      (map.record outcome).withStorage { map.storage with allocate := source } :=
    record_withStorage hsteady hsource (fun _ => rfl) (fun _ _ _ _ => rfl) h
  rw [hrecord, Step.withSource, withSource, (record_returned hsteady outcome).2]
  rfl

/-! ## One record -/

variable {plan : Plan} {recorded : List Outcome}

/-- Where a run can be whose sources of slots never fail. -/
inductive Stage (plan : Plan) (map : OutcomeMap) (recorded : List Outcome) : Prop
  | waiting (waiting : Waiting plan map) (recorded_eq : recorded = [])
  /-- The map has slots. Its capacity is that of the plan as long as it may ask for more. -/
  | recording {slots : Array Text} (layout : Layout plan map slots recorded)
      (recorded_ne : recorded ≠ [])
      (unrefused : slots.size < map.maxCapacity → map.maxCapacity = plan.capacity)
  | off (disabled : map.enabled = false) (slots_eq : map.slots = none) (recorded_ne : recorded ≠ [])

/-- The number of slots a map of a plan asks for when it has so many. -/
def Plan.nextSize (plan : Plan) (capacity : Nat) : Nat :=
  min (capacity + plan.step) plan.capacity

/-- How many requests a map may still make. -/
def budget (plan : Plan) (map : OutcomeMap) : Nat :=
  if !map.enabled then 0
  else
    match map.slots with
    | none => 1 + (plan.capacity - plan.ceiling) ⌈/⌉ plan.step
    | some slots => (map.maxCapacity - slots.size) ⌈/⌉ plan.step

/-- What a record of a run does when `recorded` outcomes were recorded before it. -/
structure Moves (plan : Plan) (recorded : Nat) (before after : OutcomeMap)
    (requests : List Request) : Prop where
  first : recorded = 0 → ∃ granted, requests = [⟨.ofNat plan.firstSize, granted⟩]
  /-- Only a full map below its capacity asks again. -/
  asks : recorded ≠ 0 → (requests ≠ [] ↔
    before.capacity = recorded ∧ before.capacity < before.maxCapacity)
  later : recorded ≠ 0 → ∀ request ∈ requests,
    request.size = .ofNat (plan.nextSize before.capacity) ∧
      before.capacity < plan.nextSize before.capacity
  capacity_le : before.capacity ≤ after.capacity
  quiet : requests = [] →
    after.capacity = before.capacity ∧ after.maxCapacity = before.maxCapacity
  refused : ∀ request ∈ requests, request.granted = false → budget plan after = 0
  length_le : requests.length ≤ 1
  budget_le : requests.length + budget plan after ≤ budget plan before

theorem Moves.of_withSource {count : Nat} {source : Allocator} {after : OutcomeMap}
    {requests : List Request} (h : Moves plan count (map.withSource source) after requests) :
    Moves plan count map after requests :=
  { first := h.first
    asks := h.asks
    later := h.later
    capacity_le := h.capacity_le
    quiet := h.quiet
    refused := h.refused
    length_le := h.length_le
    budget_le := h.budget_le }

theorem Waiting.capacity_eq_zero (h : Waiting plan map) : map.capacity = 0 := by
  simp [capacity, h.slots_eq]

theorem Waiting.budget_eq (h : Waiting plan map) :
    budget plan map = 1 + (plan.capacity - plan.ceiling) ⌈/⌉ plan.step := by
  simp [budget, h.enabled, h.slots_eq]

theorem Layout.budget_eq (h : Layout plan map slots recorded) :
    budget plan map = (map.maxCapacity - slots.size) ⌈/⌉ plan.step := by
  simp [budget, h.enabled, h.slots_eq]

theorem budget_of_disabled (h : map.enabled = false) : budget plan map = 0 := by
  simp [budget, h]

theorem Plan.sub_firstSize (plan : Plan) :
    plan.capacity - plan.firstSize = plan.capacity - plan.ceiling := by
  have hmin : plan.firstSize = min plan.capacity plan.ceiling := rfl
  omega

/-- A step nearer to the capacity is a request less. -/
theorem ceilDiv_sub_nextSize (plan : Plan) {size : Nat} (h : size < plan.capacity) :
    1 + (plan.capacity - plan.nextSize size) ⌈/⌉ plan.step ≤
      (plan.capacity - size) ⌈/⌉ plan.step := by
  have hstep := plan.step_pos
  unfold Plan.nextSize
  rw [Nat.ceilDiv_eq_add_pred_div, Nat.ceilDiv_eq_add_pred_div]
  rcases Nat.le_total (size + plan.step) plan.capacity with hle | hle
  · have hsplit : plan.capacity - size + plan.step - 1 =
        plan.capacity - (size + plan.step) + plan.step - 1 + plan.step := by omega
    rw [Nat.min_eq_left hle, hsplit, Nat.add_div_right _ hstep, Nat.add_comm]
  · have hone : 1 ≤ (plan.capacity - size + plan.step - 1) / plan.step :=
      (Nat.one_le_div_iff hstep).mpr (by omega)
    have hzero : (plan.capacity - plan.capacity + plan.step - 1) / plan.step = 0 :=
      Nat.div_eq_of_lt (by omega)
    rw [Nat.min_eq_right hle, hzero]
    exact hone

theorem Waiting.moves (h : Waiting plan map) {step : Step} (hopens : Opens plan map outcome step)
    (hreturned : step.failure = none) :
    Stage plan step.map [outcome] ∧ Moves plan 0 map step.map step.requests := by
  cases hopens with
  | @granted after slots answer layout size_eq capacity_eq =>
    have hcapacity : after.capacity = slots.size := layout.capacity_eq
    refine ⟨.recording layout (by simp) fun _ => capacity_eq, ?_⟩
    exact
      { first := fun _ => ⟨true, rfl⟩
        asks := fun hne => absurd rfl hne
        later := fun hne => absurd rfl hne
        capacity_le := by simp [h.capacity_eq_zero]
        quiet := by simp [Step.requests]
        refused := by simp [Step.requests, Event.request]
        length_le := by simp [Step.requests]
        budget_le := by
          rw [h.budget_eq, layout.budget_eq, capacity_eq, size_eq, plan.sub_firstSize]
          rfl }
  | refused reason answer =>
    refine ⟨.off rfl h.slots_eq (by simp), ?_⟩
    exact
      { first := fun _ => ⟨false, rfl⟩
        asks := fun hne => absurd rfl hne
        later := fun hne => absurd rfl hne
        capacity_le := Nat.le_refl _
        quiet := by simp [Step.requests]
        refused := fun _ _ _ => budget_of_disabled rfl
        length_le := by simp [Step.requests]
        budget_le := by
          rw [h.budget_eq, budget_of_disabled rfl]
          exact Nat.le_add_right _ _ }
  | failed reason answer => cases hreturned

theorem Layout.moves (h : Layout plan map slots recorded)
    (hunrefused : slots.size < map.maxCapacity → map.maxCapacity = plan.capacity)
    (hrecorded : recorded ≠ []) {step : Step}
    (henters : Enters plan map slots recorded outcome step) (hreturned : step.failure = none) :
    Stage plan step.map (recorded ++ [outcome]) ∧
      Moves plan recorded.length map step.map step.requests := by
  have hne : recorded.length ≠ 0 := by simpa using hrecorded
  have hcapacity := h.capacity_eq
  cases henters with
  | @written after slots' settled layout size_eq capacity_eq =>
    have hsize : after.capacity = slots.size := layout.capacity_eq.trans size_eq
    refine ⟨.recording layout (by simp) ?_, ?_⟩
    · rw [size_eq, capacity_eq]
      exact hunrefused
    · exact
        { first := fun hzero => absurd hzero hne
          asks := by
            intro _
            have hfull : ¬ (map.capacity = recorded.length ∧ map.capacity < map.maxCapacity) := by
              rintro ⟨hfull, hbelow⟩
              have hsettled := settled (hfull.symm.trans hcapacity)
              omega
            simp [Step.requests, hfull]
          later := by simp [Step.requests]
          capacity_le := by rw [hcapacity, hsize]
          quiet := fun _ => ⟨by rw [hcapacity, hsize], capacity_eq⟩
          refused := by simp [Step.requests]
          length_le := by simp [Step.requests]
          budget_le := by
            rw [h.budget_eq, layout.budget_eq, size_eq, capacity_eq]
            simp [Step.requests] }
  | @grown after slots' full below answer layout size_eq capacity_eq =>
    have hplan := hunrefused below
    have hgrowth : growthSize plan map slots.size = plan.nextSize slots.size := by
      rw [growthSize, hplan]
      rfl
    have hlt : slots.size < plan.nextSize slots.size := hgrowth ▸ lt_growthSize below
    have hsize : after.capacity = plan.nextSize slots.size :=
      layout.capacity_eq.trans (size_eq.trans hgrowth)
    refine ⟨.recording layout (by simp) fun _ => capacity_eq.trans hplan, ?_⟩
    exact
      { first := fun hzero => absurd hzero hne
        asks := fun _ => by simp [Step.requests, hcapacity, full, below]
        later := by
          intro _ request hrequest
          rw [List.mem_singleton.mp hrequest, hcapacity]
          exact ⟨congrArg Number.ofNat hgrowth, hlt⟩
        capacity_le := by
          rw [hcapacity, hsize]
          exact hlt.le
        quiet := by simp [Step.requests]
        refused := by simp [Step.requests, Event.request]
        length_le := by simp [Step.requests]
        budget_le := by
          rw [h.budget_eq, layout.budget_eq, size_eq, capacity_eq, hplan, hgrowth]
          exact ceilDiv_sub_nextSize plan (hplan ▸ below) }
  | @refused after slots' reason full below answer layout size_eq capacity_eq =>
    have hplan := hunrefused below
    have hgrowth : growthSize plan map slots.size = plan.nextSize slots.size := by
      rw [growthSize, hplan]
      rfl
    have hsize : after.capacity = slots.size := layout.capacity_eq.trans size_eq
    have hbudget : budget plan after = 0 := by
      rw [layout.budget_eq, size_eq, capacity_eq, Nat.sub_self, zero_ceilDiv]
    refine ⟨.recording layout (by simp) fun hbelow => absurd hbelow ?_, ?_⟩
    · rw [size_eq, capacity_eq]
      exact Nat.lt_irrefl _
    · exact
        { first := fun hzero => absurd hzero hne
          asks := fun _ => by simp [Step.requests, hcapacity, full, below]
          later := by
            intro _ request hrequest
            rw [List.mem_singleton.mp hrequest, hcapacity]
            exact ⟨congrArg Number.ofNat hgrowth, hgrowth ▸ lt_growthSize below⟩
          capacity_le := by rw [hcapacity, hsize]
          quiet := by simp [Step.requests]
          refused := fun _ _ _ => hbudget
          length_le := by simp [Step.requests]
          budget_le := by
            have hone := ceilDiv_sub_nextSize plan (hplan ▸ below)
            rw [h.budget_eq, hbudget, hplan]
            exact (Nat.le_add_right 1 _).trans hone }
  | failed reason full below answer => cases hreturned

/-- **One record moves on from every stage.** -/
theorem Stage.receive (h : Stage plan map recorded) (arrival : Arrival)
    (hsteady : arrival.source.Steady) :
    Stage plan (map.receive arrival).map (recorded ++ [arrival.outcome]) ∧
      Moves plan recorded.length map (map.receive arrival).map (map.receive arrival).requests := by
  have hreturned : (map.receive arrival).failure = none := receive_returned map hsteady
  cases h with
  | waiting hwaiting hnone =>
    subst hnone
    have hopens := (hwaiting.withSource arrival.source).record_opens arrival.exact arrival.outcome
    obtain ⟨hstage, hmoves⟩ := (hwaiting.withSource arrival.source).moves hopens hreturned
    exact ⟨hstage, hmoves.of_withSource⟩
  | recording layout recorded_ne unrefused =>
    have hlayout := layout.withSource arrival.source
    have henters := hlayout.append_enters arrival.exact arrival.outcome
    rw [← hlayout.record_eq] at henters
    obtain ⟨hstage, hmoves⟩ := hlayout.moves unrefused recorded_ne henters hreturned
    exact ⟨hstage, hmoves.of_withSource⟩
  | off disabled slots_eq recorded_ne =>
    rw [receive_of_disabled disabled]
    have hcapacity : map.capacity = 0 := by simp [capacity, slots_eq]
    have hne : recorded.length ≠ 0 := by simpa using recorded_ne
    refine ⟨.off disabled slots_eq (by simp), ?_⟩
    exact
      { first := fun hzero => absurd hzero hne
        asks := by
          intro _
          rw [hcapacity]
          simp [Step.requests, hne.symm]
        later := by simp [Step.requests]
        capacity_le := Nat.le_refl _
        quiet := fun _ => ⟨rfl, rfl⟩
        refused := by simp [Step.requests]
        length_le := by simp [Step.requests]
        budget_le := by
          have hbudget : budget plan (map.withSource arrival.source) = 0 :=
            budget_of_disabled disabled
          rw [hbudget]
          exact Nat.zero_le _ }

/-! ## Runs -/

theorem map_recordAll_cons (map : OutcomeMap) (arrival : Arrival) (rest : List Arrival) :
    (map.recordAll (arrival :: rest)).map = ((map.receive arrival).map.recordAll rest).map := by
  induction rest using List.reverseRecOn with
  | nil => rfl
  | append_singleton rest last ih =>
    rw [← List.cons_append, recordAll_concat, recordAll_concat, Run.next, Run.next, ih]

theorem map_recordAll_append (map : OutcomeMap) (arrivals later : List Arrival) :
    (map.recordAll (arrivals ++ later)).map =
      ((map.recordAll arrivals).map.recordAll later).map := by
  induction arrivals generalizing map with
  | nil => rfl
  | cons arrival rest ih =>
    rw [List.cons_append, map_recordAll_cons, map_recordAll_cons, ih]

/-- **A run never exceeds its budget**, and ends where it may ask so much less. -/
theorem Stage.recordAll (h : Stage plan map recorded) {arrivals : List Arrival}
    (hsteady : ∀ arrival ∈ arrivals, arrival.source.Steady) :
    Stage plan (map.recordAll arrivals).map (recorded ++ arrivals.map Arrival.outcome) ∧
      (map.requestsAll arrivals).length + budget plan (map.recordAll arrivals).map ≤
        budget plan map ∧
      map.capacity ≤ (map.recordAll arrivals).map.capacity := by
  induction arrivals generalizing map recorded with
  | nil =>
    rw [List.map_nil, List.append_nil]
    exact ⟨h, (Nat.zero_add _).le, Nat.le_refl _⟩
  | cons arrival rest ih =>
    obtain ⟨hstage, hmoves⟩ := h.receive arrival (hsteady arrival (List.mem_cons_self ..))
    obtain ⟨hend, hbudget, hcapacity⟩ :=
      ih hstage fun other hother => hsteady other (List.mem_cons_of_mem _ hother)
    have hstep := hmoves.budget_le
    rw [map_recordAll_cons, requestsAll, List.length_append, List.map_cons, List.append_cons]
    exact ⟨hend, by omega, hmoves.capacity_le.trans hcapacity⟩

/-- A run without requests leaves the number of slots and the capacity as they are. -/
theorem Stage.recordAll_of_quiet (h : Stage plan map recorded) {arrivals : List Arrival}
    (hsteady : ∀ arrival ∈ arrivals, arrival.source.Steady)
    (hquiet : map.requestsAll arrivals = []) :
    (map.recordAll arrivals).map.capacity = map.capacity ∧
      (map.recordAll arrivals).map.maxCapacity = map.maxCapacity := by
  induction arrivals generalizing map recorded with
  | nil => exact ⟨rfl, rfl⟩
  | cons arrival rest ih =>
    obtain ⟨hstage, hmoves⟩ := h.receive arrival (hsteady arrival (List.mem_cons_self ..))
    obtain ⟨hnone, hrest⟩ := List.append_eq_nil_iff.mp hquiet
    obtain ⟨hcapacity, hmax⟩ := hmoves.quiet hnone
    obtain ⟨hcapacity', hmax'⟩ :=
      ih hstage (fun other hother => hsteady other (List.mem_cons_of_mem _ hother)) hrest
    rw [map_recordAll_cons]
    exact ⟨hcapacity'.trans hcapacity, hmax'.trans hmax⟩

/-- A map without a budget does not ask any more. -/
theorem Stage.requestsAll_eq_nil (h : Stage plan map recorded) {arrivals : List Arrival}
    (hsteady : ∀ arrival ∈ arrivals, arrival.source.Steady) (hbudget : budget plan map = 0) :
    map.requestsAll arrivals = [] := by
  obtain ⟨-, hle, -⟩ := h.recordAll hsteady
  exact List.length_eq_zero_iff.mp (by omega)

/-- Only the last request of a run can be refused. -/
theorem Stage.granted_of_mem_dropLast (h : Stage plan map recorded) {arrivals : List Arrival}
    (hsteady : ∀ arrival ∈ arrivals, arrival.source.Steady) :
    ∀ request ∈ (map.requestsAll arrivals).dropLast, request.granted = true := by
  induction arrivals generalizing map recorded with
  | nil => simp [requestsAll]
  | cons arrival rest ih =>
    obtain ⟨hstage, hmoves⟩ := h.receive arrival (hsteady arrival (List.mem_cons_self ..))
    have hrest : ∀ other ∈ rest, other.source.Steady :=
      fun other hother => hsteady other (List.mem_cons_of_mem _ hother)
    intro request hrequest
    rw [requestsAll] at hrequest
    by_cases hnone : (map.receive arrival).map.requestsAll rest = []
    · have hlength := hmoves.length_le
      rw [hnone, List.append_nil] at hrequest
      have hshort : (map.receive arrival).requests.dropLast = [] :=
        List.length_eq_zero_iff.mp (by rw [List.length_dropLast]; omega)
      rw [hshort] at hrequest
      cases hrequest
    · rw [List.dropLast_append_of_ne_nil hnone, List.mem_append] at hrequest
      rcases hrequest with hrequest | hrequest
      · by_contra hrefused
        exact hnone (hstage.requestsAll_eq_nil hrest
          (hmoves.refused request hrequest (Bool.eq_false_iff.mpr hrefused)))
      · exact ih hstage hrest request hrequest

/-- A run that asks for slots as late as it can, for more every time, and never again after a
refusal. In each statement about a record, `before` are the arrivals recorded before it. -/
structure Lazy (plan : Plan) (map : OutcomeMap) (arrivals : List Arrival) : Prop where
  first : ∀ arrival rest, arrivals = arrival :: rest →
    ∃ granted, (map.receive arrival).requests =
      [⟨.ofNat (min plan.capacity plan.ceiling), granted⟩]
  /-- A later record asks if the slots are full, nothing was overwritten, and the capacity is not
  reached. -/
  asks : ∀ before arrival rest, arrivals = before ++ arrival :: rest → before ≠ [] →
    (((map.recordAll before).map.receive arrival).requests ≠ [] ↔
      (map.recordAll before).map.capacity = before.length ∧
        (map.recordAll before).map.capacity < (map.recordAll before).map.maxCapacity)
  later : ∀ before arrival rest, arrivals = before ++ arrival :: rest → before ≠ [] →
    ∀ request ∈ ((map.recordAll before).map.receive arrival).requests,
      request.size =
          .ofNat (min ((map.recordAll before).map.capacity + plan.step) plan.capacity) ∧
        (map.recordAll before).map.capacity <
          min ((map.recordAll before).map.capacity + plan.step) plan.capacity
  /-- What is told of a request is what the source answered. -/
  answered : ∀ before arrival rest, arrivals = before ++ arrival :: rest →
    ∀ request ∈ ((map.recordAll before).map.receive arrival).requests,
      request.granted = (arrival.source request.size).isGranted
  /-- A record asks for nothing else: another source with the same answers does as well. -/
  determined : ∀ before arrival rest, arrivals = before ++ arrival :: rest →
    ∀ other : Arrival, other.source.Steady → other.outcome = arrival.outcome →
      (∀ request ∈ ((map.recordAll before).map.receive arrival).requests,
        other.source request.size = arrival.source request.size) →
      (map.recordAll before).map.receive other =
        ((map.recordAll before).map.receive arrival).withSource other.source
  granted : ∀ request ∈ (map.requestsAll arrivals).dropLast, request.granted = true
  refused : ∀ before arrival rest later, arrivals = before ++ arrival :: (rest ++ later) →
    (∃ request ∈ ((map.recordAll before).map.receive arrival).requests, request.granted = false) →
      (map.recordAll (before ++ arrival :: rest)).map.capacity =
          (map.recordAll (before ++ [arrival])).map.capacity ∧
        (map.recordAll (before ++ arrival :: rest)).map.maxCapacity =
          (map.recordAll (before ++ [arrival])).map.maxCapacity
  capacity_le : ∀ before rest later, arrivals = before ++ (rest ++ later) →
    (map.recordAll before).map.capacity ≤ (map.recordAll (before ++ rest)).map.capacity
  length_le :
    (map.requestsAll arrivals).length ≤ 1 + (plan.capacity - plan.ceiling) ⌈/⌉ plan.step

/-- **Storage is requested lazily**, in growing sizes, and never again after a refusal, whatever the
sources of slots grant or refuse. -/
theorem lazy_recordAll (plan : Plan) (source : Allocator) {arrivals : List Arrival}
    (hsteady : ∀ arrival ∈ arrivals, arrival.source.Steady) :
    ∃ map, create (.ofNat plan.capacity) plan.glyphs (plan.storage source) = .ok map ∧
      Lazy plan map arrivals := by
  refine ⟨plan.empty source, plan.create_eq source, ?_⟩
  have hempty : Stage plan (plan.empty source) [] := .waiting (plan.waiting_empty source) rfl
  have hstage (before rest : List Arrival) (harrivals : arrivals = before ++ rest) :
      Stage plan ((plan.empty source).recordAll before).map (before.map Arrival.outcome) :=
    (hempty.recordAll fun arrival harrival =>
      hsteady arrival (harrivals ▸ List.mem_append_left _ harrival)).1
  have hsource (before rest : List Arrival) (arrival : Arrival)
      (harrivals : arrivals = before ++ arrival :: rest) : arrival.source.Steady :=
    hsteady arrival (harrivals ▸ List.mem_append_right _ (List.mem_cons_self ..))
  have hmoves (before rest : List Arrival) (arrival : Arrival)
      (harrivals : arrivals = before ++ arrival :: rest) :=
    ((hstage before _ harrivals).receive arrival (hsource before rest arrival harrivals)).2
  exact
    { first := by
        intro arrival rest harrivals
        exact (hmoves [] rest arrival harrivals).first rfl
      asks := by
        intro before arrival rest harrivals hbefore
        have hasks := (hmoves before rest arrival harrivals).asks (by simpa using hbefore)
        rwa [List.length_map] at hasks
      later := by
        intro before arrival rest harrivals hbefore
        exact (hmoves before rest arrival harrivals).later (by simpa using hbefore)
      answered := by
        intro before arrival rest harrivals
        have hanswers : (((plan.empty source).recordAll before).map.withSource
            arrival.source).Answers
              (((plan.empty source).recordAll before).map.receive arrival) :=
          record_answers (hsource before rest arrival harrivals) arrival.outcome
        exact hanswers
      determined := by
        intro before arrival rest harrivals other hother houtcome hagrees
        have hrecord : (((plan.empty source).recordAll before).map.withSource
            other.source).record arrival.outcome =
              (((plan.empty source).recordAll before).map.receive arrival).withSource
                other.source :=
          record_withSource (hsource before rest arrival harrivals) hother hagrees
        rw [receive, houtcome]
        exact hrecord
      granted := hempty.granted_of_mem_dropLast hsteady
      refused := by
        rintro before arrival rest later harrivals ⟨request, hrequest, hrefused⟩
        have hbudget := (hmoves before _ arrival harrivals).refused request hrequest hrefused
        have hrest : ∀ other ∈ rest, other.source.Steady := fun other hother =>
          hsteady other (by simp [harrivals, hother])
        obtain ⟨hafter, -⟩ := (hstage before _ harrivals).receive arrival
          (hsource before _ arrival harrivals)
        have hquiet := hafter.recordAll_of_quiet hrest (hafter.requestsAll_eq_nil hrest hbudget)
        rw [map_recordAll_append, map_recordAll_append, map_recordAll_cons, map_recordAll_cons]
        exact hquiet
      capacity_le := by
        intro before rest later harrivals
        have hrest : ∀ other ∈ rest, other.source.Steady := fun other hother =>
          hsteady other (by simp [harrivals, hother])
        rw [map_recordAll_append]
        exact ((hstage before _ harrivals).recordAll hrest).2.2
      length_le := by
        obtain ⟨-, hbudget, -⟩ := hempty.recordAll hsteady
        rw [(plan.waiting_empty source).budget_eq] at hbudget
        omega }

/-- A map of nine outcomes gets two slots and then five. Eight are refused, and it does not ask
again although it is full and the source has slots. -/
theorem lazy_recordAll_refused_growth :
    let plan : Plan :=
      { capacity := 9, ceiling := 2, step := 3, glyphs := .standard
        capacity_pos := by decide, capacity_le := by decide, ceiling_pos := by decide
        step_pos := by decide, success_ne := by decide, failure_ne := by decide }
    let arrivals :=
      [.success, .failure, .success, .success, .failure].map Arrival.supplied ++
        .unsupplied .success ::
          [.failure, .failure, .success, .success, .success].map Arrival.supplied
    (∀ arrival ∈ arrivals, arrival.source.Steady) ∧
      ∃ map, create (.ofNat 9) .standard (plan.storage .standard) = .ok map ∧
        Lazy plan map arrivals ∧
        map.requestsAll arrivals = [⟨.ofNat 2, true⟩, ⟨.ofNat 5, true⟩, ⟨.ofNat 8, false⟩] := by
  intro plan arrivals
  have hsteady : ∀ arrival ∈ arrivals, arrival.source.Steady := by
    simp [arrivals, Arrival.supplied_steady, Arrival.unsupplied_steady]
  obtain ⟨map, hcreate, hlazy⟩ := lazy_recordAll plan .standard hsteady
  obtain rfl := Except.ok.inj ((plan.create_eq .standard).symm.trans hcreate)
  exact ⟨hsteady, _, hcreate, hlazy, by decide +kernel +zetaReduce⟩

end OutcomeMap

end Probing
