import Probing.OutcomeMap.View
import Probing.Proofs.Number.Whole
import Probing.Proofs.OutcomeMap.Rotation
import Probing.Proofs.OutcomeMap.Source

/-!
# The layout of an outcome map

A map that has its slots keeps them as a ring of glyphs: they hold the end of the recorded
outcomes, and nothing is overwritten as long as the capacity is not reached. One record either
writes a glyph, or writes it after the slots were extended or the capacity was lowered to their
number, or fails and changes nothing. Each of these steps keeps the layout.

## Main definitions

* `Plan`: positive sizes and visible glyphs, what maps are made from
* `Layout plan map slots kept`: the map has these slots and they hold the outcomes `kept`
* `window`: the glyphs of the last outcomes

## Main results

* `Layout.record`: what one record does to a map with a layout
* `Layout.render_eq`: such a map shows the last outcomes, the oldest first
-/

namespace Probing

/-- An answer with which a record can go on. -/
def Allocation.isSettled : Allocation → Bool
  | granted _ | refused _ => true
  | failed _ => false

namespace OutcomeMap

/-- What an outcome map is made from: a capacity within the range of counts, a positive first block
and growth step, and glyphs that can be seen. -/
structure Plan where
  capacity : Nat
  ceiling : Nat
  step : Nat
  glyphs : Glyphs
  capacity_pos : 0 < capacity
  capacity_le : capacity ≤ Number.maxCount
  ceiling_pos : 0 < ceiling
  step_pos : 0 < step
  success_ne : glyphs.success ≠ []
  failure_ne : glyphs.failure ≠ []

/-- The plan of a map for which nothing was chosen. -/
instance : Inhabited Plan where
  default :=
    { capacity := Condition.standardCapacity
      ceiling := 512
      step := 512
      glyphs := .standard
      capacity_pos := by decide
      capacity_le := by decide
      ceiling_pos := by decide
      step_pos := by decide
      success_ne := by decide
      failure_ne := by decide }

namespace Plan

variable (plan : Plan)

/-- The storage of a plan with a source of slots. -/
def storage (source : Allocator) : Storage where
  initialCeiling := .ofNat plan.ceiling
  growthStep := .ofNat plan.step
  allocate := source

/-- The size of the first request. -/
def firstSize : Nat := Nat.min plan.capacity plan.ceiling

/-- The map of a plan before the first outcome. -/
def empty (source : Allocator) : OutcomeMap where
  glyphs := plan.glyphs
  storage := plan.storage source
  maxCapacity := plan.capacity

/-- The glyphs of outcomes. -/
def cells (kept : List Outcome) : List Text :=
  kept.map plan.glyphs.ofOutcome

theorem ofOutcome_ne (outcome : Outcome) : plan.glyphs.ofOutcome outcome ≠ [] := by
  cases outcome
  · exact plan.success_ne
  · exact plan.failure_ne

theorem length_cells (kept : List Outcome) : (plan.cells kept).length = kept.length :=
  List.length_map ..

theorem cells_concat (kept : List Outcome) (outcome : Outcome) :
    plan.cells (kept ++ [outcome]) = plan.cells kept ++ [plan.glyphs.ofOutcome outcome] :=
  List.map_append ..

theorem create_eq (source : Allocator) :
    create (.ofNat plan.capacity) plan.glyphs (plan.storage source) = .ok (plan.empty source) := by
  have hcapacity : (Number.ofNat plan.capacity).positiveInteger? = some plan.capacity :=
    Number.positiveInteger?_eq_some_iff.mpr ⟨rfl, plan.capacity_pos, plan.capacity_le⟩
  have hceiling : ¬ plan.ceiling < 1 := Nat.not_lt.mpr plan.ceiling_pos
  have hstep : ¬ plan.step < 1 := Nat.not_lt.mpr plan.step_pos
  simp only [create, hcapacity, storage, Number.blt_ofNat, hceiling, hstep]
  rfl

end Plan

/-- A map that was made from a plan and may have lowered its capacity since. -/
structure Follows (plan : Plan) (map : OutcomeMap) : Prop where
  glyphs_eq : map.glyphs = plan.glyphs
  ceiling_eq : map.storage.initialCeiling = .ofNat plan.ceiling
  step_eq : map.storage.growthStep = .ofNat plan.step
  capacity_le : map.maxCapacity ≤ plan.capacity

/-- A map with slots. -/
structure Layout (plan : Plan) (map : OutcomeMap) (slots : Array Text) (kept : List Outcome) :
    Prop extends Follows plan map where
  enabled : map.enabled = true
  slots_eq : map.slots = some slots
  size_pos : 0 < slots.size
  size_le : slots.size ≤ map.maxCapacity
  /-- The slots hold the outcomes kept so far. -/
  holds : Ring.Holds [] slots.toList (plan.cells kept)
  writePos_eq : map.writePos = Ring.writePosition slots.size kept.length
  /-- Nothing is overwritten before the capacity is reached. -/
  early : slots.size < map.maxCapacity → kept.length ≤ slots.size

variable {plan : Plan} {map : OutcomeMap} {slots : Array Text} {kept : List Outcome}

/-! ## Sizes of requests -/

theorem Follows.firstRequest_eq (h : Follows plan map)
    (hcapacity : map.maxCapacity = plan.capacity) : map.firstRequest = .ofNat plan.firstSize := by
  rw [firstRequest, h.ceiling_eq, hcapacity]
  exact Number.min_ofNat plan.capacity plan.ceiling

/-- The size of a request of a map with `size` slots. -/
def growthSize (plan : Plan) (map : OutcomeMap) (size : Nat) : Nat :=
  Nat.min (size + plan.step) map.maxCapacity

theorem Follows.growthRequest_eq (h : Follows plan map) (size : Nat) :
    map.growthRequest size = .ofNat (growthSize plan map size) := by
  rw [growthRequest, h.step_eq]
  exact Number.min_add_ofNat (h.capacity_le.trans plan.capacity_le)

theorem lt_growthSize {size : Nat} (h : size < map.maxCapacity) :
    size < growthSize plan map size := by
  have hstep := plan.step_pos
  exact Nat.lt_min.mpr ⟨by omega, h⟩

theorem growthSize_le (size : Nat) : growthSize plan map size ≤ map.maxCapacity :=
  Nat.min_le_right _ _

/-! ## One record -/

/-- The next write does not need another slot. -/
def Ready (map : OutcomeMap) (slots : Array Text) : Prop :=
  map.writePos = slots.size → slots.size = map.maxCapacity

theorem put_toList {position : Nat} (hpos : 0 < slots.size) (hle : position ≤ slots.size)
    (glyph : Text) :
    (put slots (if position = slots.size then 0 else position) glyph).toList =
      Ring.put slots.toList position glyph := by
  have hlt : (if position = slots.size then 0 else position) < slots.size := by
    split <;> omega
  rw [put, dif_pos hlt, Array.toList_set, Ring.put, Array.length_toList]

theorem write_eq (hslots : map.slots = some slots) (glyph : Text) :
    map.write glyph =
      { map with
        slots := some (put slots (if map.writePos = slots.size then 0 else map.writePos) glyph)
        writePos := (if map.writePos = slots.size then 0 else map.writePos) + 1 } := by
  simp [write, hslots]

/-- Writing the glyph of an outcome appends the outcome. -/
theorem Layout.write (h : Layout plan map slots kept) (hready : Ready map slots)
    (outcome : Outcome) :
    ∃ slots', Layout plan (map.write (plan.glyphs.ofOutcome outcome)) slots' (kept ++ [outcome]) ∧
      slots'.size = slots.size := by
  have hle : map.writePos ≤ slots.size := by
    rw [h.writePos_eq]
    exact Ring.writePosition_le h.size_pos _
  have hput := put_toList h.size_pos hle (plan.glyphs.ofOutcome outcome)
  set slots' := put slots (if map.writePos = slots.size then 0 else map.writePos)
    (plan.glyphs.ofOutcome outcome) with hslots'
  have hsize : slots'.size = slots.size := by
    rw [← Array.length_toList, hput, Ring.put, List.length_set, Array.length_toList]
  have hwrite := h.holds.write h.size_pos (plan.glyphs.ofOutcome outcome)
  refine ⟨slots', ?_, hsize⟩
  rw [write_eq h.slots_eq]
  refine { h.toFollows with
    enabled := h.enabled
    slots_eq := rfl
    size_pos := hsize ▸ h.size_pos
    size_le := hsize ▸ h.size_le
    holds := ?_
    writePos_eq := ?_
    early := ?_ }
  · rw [plan.length_cells, Array.length_toList, ← h.writePos_eq, ← hput] at hwrite
    rwa [plan.cells_concat]
  · rw [hsize, List.length_append, List.length_singleton, Ring.writePosition_next h.size_pos,
      ← h.writePos_eq]
  · intro hlt
    rw [hsize] at hlt ⊢
    have hkept := h.early hlt
    have hne : kept.length ≠ slots.size := by
      intro hfull
      have hpos := h.writePos_eq
      rw [Ring.writePosition_of_le hkept, hfull] at hpos
      exact absurd (hready hpos) (Nat.ne_of_lt hlt)
    rw [List.length_append, List.length_singleton]
    omega

theorem size_extended {size : Nat} (hle : slots.size ≤ size) :
    (slots ++ Array.replicate (size - slots.size) ([] : Text)).size = size := by
  rw [Array.size_append, Array.size_replicate]
  omega

/-- A full map below its capacity has overwritten nothing, so that more slots may follow. -/
theorem Layout.extend (h : Layout plan map slots kept) (hfull : map.writePos = slots.size)
    {size : Nat} (hlt : slots.size < size) (hle : size ≤ map.maxCapacity) :
    Layout plan { map with slots := some (slots ++ Array.replicate (size - slots.size) []) }
      (slots ++ Array.replicate (size - slots.size) []) kept := by
  have hkept := h.early (hlt.trans_le hle)
  have hlength : kept.length = slots.size := by
    rw [← hfull, h.writePos_eq, Ring.writePosition_of_le hkept]
  have hsize := size_extended hlt.le
  refine { h.toFollows with
    enabled := h.enabled
    slots_eq := rfl
    size_pos := by rw [hsize]; omega
    size_le := by rw [hsize]; exact hle
    holds := ?_
    writePos_eq := ?_
    early := fun _ => by rw [hsize]; omega }
  · rw [Array.toList_append, Array.toList_replicate]
    exact h.holds.grow (by rw [plan.length_cells, hlength, Array.length_toList]) _
  · rw [hsize, Ring.writePosition_of_le (by omega), hlength]
    exact hfull

/-- A map whose request is refused keeps what it has and takes it for its capacity. -/
theorem Layout.lower (h : Layout plan map slots kept) :
    Layout plan { map with maxCapacity := slots.size } slots kept :=
  { h.toFollows with
    capacity_le := h.size_le.trans h.capacity_le
    enabled := h.enabled
    slots_eq := h.slots_eq
    size_pos := h.size_pos
    size_le := Nat.le_refl _
    holds := h.holds
    writePos_eq := h.writePos_eq
    early := fun hlt => absurd hlt (Nat.lt_irrefl _) }

/-- The step goes to a map that holds one outcome more, or it fails and the map stays as it was. -/
def Advances (plan : Plan) (kept : List Outcome) (outcome : Outcome) (map : OutcomeMap)
    (step : Step) : Prop :=
  (step.failure = none ∧ ∃ slots, Layout plan step.map slots (kept ++ [outcome])) ∨
    (step.failure.isSome ∧ step.map = map)

/-- The ways in which an outcome goes into a map with a layout. Only a full map below its capacity
asks for slots. -/
inductive Enters (plan : Plan) (map : OutcomeMap) (slots : Array Text) (kept : List Outcome)
    (outcome : Outcome) : Step → Prop
  /-- The outcome is written into the slots that are there. -/
  | written {after : OutcomeMap} {slots' : Array Text}
      (settled : kept.length = slots.size → slots.size = map.maxCapacity)
      (layout : Layout plan after slots' (kept ++ [outcome])) (size_eq : slots'.size = slots.size)
      (capacity_eq : after.maxCapacity = map.maxCapacity) :
      Enters plan map slots kept outcome { map := after }
  /-- More slots are granted, and the outcome is written into the first of them. -/
  | grown {after : OutcomeMap} {slots' : Array Text} (full : kept.length = slots.size)
      (below : slots.size < map.maxCapacity)
      (answer : map.storage.allocate (.ofNat (growthSize plan map slots.size)) =
        .granted (growthSize plan map slots.size))
      (layout : Layout plan after slots' (kept ++ [outcome]))
      (size_eq : slots'.size = growthSize plan map slots.size)
      (capacity_eq : after.maxCapacity = map.maxCapacity) :
      Enters plan map slots kept outcome
        { map := after
          events := [.extended slots.size (.ofNat (growthSize plan map slots.size))
            map.maxCapacity] }
  /-- More slots are refused, and the oldest outcome is overwritten. -/
  | refused {after : OutcomeMap} {slots' : Array Text} (reason : Text)
      (full : kept.length = slots.size) (below : slots.size < map.maxCapacity)
      (answer : map.storage.allocate (.ofNat (growthSize plan map slots.size)) = .refused reason)
      (layout : Layout plan after slots' (kept ++ [outcome])) (size_eq : slots'.size = slots.size)
      (capacity_eq : after.maxCapacity = slots.size) :
      Enters plan map slots kept outcome
        { map := after
          events := [.growthRefused reason slots.size
            (.ofNat (growthSize plan map slots.size))] }
  /-- The request for more slots fails. -/
  | failed (reason : Text) (full : kept.length = slots.size) (below : slots.size < map.maxCapacity)
      (answer : map.storage.allocate (.ofNat (growthSize plan map slots.size)) = .failed reason) :
      Enters plan map slots kept outcome { map, failure := some reason }

theorem Layout.append_eq_of_room (h : Layout plan map slots kept)
    (hroom : map.writePos ≠ slots.size) (outcome : Outcome) :
    map.append slots outcome = { map := map.write (plan.glyphs.ofOutcome outcome) } := by
  rw [OutcomeMap.append, if_neg hroom, h.glyphs_eq]

theorem Layout.append_of_room (h : Layout plan map slots kept) (hroom : map.writePos ≠ slots.size)
    (outcome : Outcome) :
    ∃ after slots', map.append slots outcome = { map := after } ∧
      Layout plan after slots' (kept ++ [outcome]) ∧ slots'.size = slots.size ∧
      after.maxCapacity = map.maxCapacity := by
  obtain ⟨slots', hslots', hsize⟩ := h.write (fun hfull => absurd hfull hroom) outcome
  exact ⟨_, slots', h.append_eq_of_room hroom outcome, hslots', hsize, rfl⟩

theorem Layout.append_enters (h : Layout plan map slots kept) (hexact : map.storage.allocate.Exact)
    (outcome : Outcome) : Enters plan map slots kept outcome (map.append slots outcome) := by
  by_cases hfull : map.writePos = slots.size
  · rw [OutcomeMap.append, if_pos hfull, h.glyphs_eq]
    by_cases hroom : map.maxCapacity ≤ slots.size
    · have hgrow : grow map slots = { map } := by simp [grow, hroom]
      have hready : Ready map slots := fun _ => Nat.le_antisymm h.size_le hroom
      obtain ⟨slots', hslots', hsize⟩ := h.write hready outcome
      rw [hgrow]
      exact .written (fun _ => Nat.le_antisymm h.size_le hroom) hslots' hsize rfl
    · have hlt : slots.size < map.maxCapacity := Nat.lt_of_not_le hroom
      have hkept : kept.length = slots.size := by
        rw [← hfull, h.writePos_eq, Ring.writePosition_of_le (h.early hlt)]
      simp only [grow, if_neg hroom, h.growthRequest_eq]
      cases hanswer : map.storage.allocate (.ofNat (growthSize plan map slots.size)) with
      | granted granted =>
        obtain rfl := hexact _ _ hanswer
        have hmore : slots.size < growthSize plan map slots.size := lt_growthSize hlt
        have hextended := h.extend hfull hmore (growthSize_le _)
        have hne : map.writePos ≠
            (slots ++ Array.replicate (growthSize plan map slots.size - slots.size) []).size := by
          rw [size_extended hmore.le, hfull]
          exact Nat.ne_of_lt hmore
        obtain ⟨slots', hslots', hsize⟩ := hextended.write (fun hfull => absurd hfull hne) outcome
        exact .grown hkept hlt hanswer hslots' (hsize.trans (size_extended hmore.le)) rfl
      | refused reason =>
        obtain ⟨slots', hslots', hsize⟩ := h.lower.write (fun _ => rfl) outcome
        exact .refused reason hkept hlt hanswer hslots' hsize rfl
      | failed reason => exact .failed reason hkept hlt hanswer
  · obtain ⟨after, slots', happend, hslots', hsize, hcapacity⟩ := h.append_of_room hfull outcome
    rw [happend]
    refine .written (fun hkept => absurd ?_ hfull) hslots' hsize hcapacity
    rw [h.writePos_eq, Ring.writePosition_of_le hkept.le, hkept]

theorem Enters.advances {outcome : Outcome} {step : Step}
    (h : Enters plan map slots kept outcome step) : Advances plan kept outcome map step := by
  cases h with
  | written settled layout => exact .inl ⟨rfl, _, layout⟩
  | grown full below answer layout => exact .inl ⟨rfl, _, layout⟩
  | refused reason full below answer layout => exact .inl ⟨rfl, _, layout⟩
  | failed reason full below answer => exact .inr ⟨rfl, rfl⟩

theorem Layout.record_eq (h : Layout plan map slots kept) (outcome : Outcome) :
    map.record outcome = map.append slots outcome := by
  simp [OutcomeMap.record, h.enabled, h.slots_eq]

/-- **One record keeps the layout**: the map then holds one outcome more, or the record fails and
nothing has changed. -/
theorem Layout.record (h : Layout plan map slots kept) (hexact : map.storage.allocate.Exact)
    (outcome : Outcome) : Advances plan kept outcome map (map.record outcome) := by
  rw [h.record_eq]
  exact (h.append_enters hexact outcome).advances

/-! ## Reading -/

theorem Layout.capacity_eq (h : Layout plan map slots kept) : map.capacity = slots.size := by
  simp [capacity, h.slots_eq]

/-- While nothing was overwritten the slots are the recorded glyphs and then empty ones. -/
theorem Layout.toList_eq_of_le (h : Layout plan map slots kept) (hle : kept.length ≤ slots.size) :
    slots.toList = plan.cells kept ++ List.replicate (slots.size - kept.length) [] := by
  have hslots := h.holds.slots_eq_of_le (by simpa [plan.length_cells] using hle)
  simpa [plan.length_cells] using hslots

/-- From the first full map on the slots are a rotation of the last glyphs. -/
theorem Layout.rotate_eq_of_le (h : Layout plan map slots kept) (hle : slots.size ≤ kept.length) :
    slots.toList.rotate map.writePos = (plan.cells kept).rtake slots.size := by
  have hslots := h.holds.rotate_eq_of_le (by simpa [plan.length_cells] using hle)
  rw [h.writePos_eq]
  simpa [plan.length_cells] using hslots

/-- The wrap flag says whether as many outcomes were recorded as there are slots. -/
theorem Layout.hasWrapped_iff (h : Layout plan map slots kept) :
    map.hasWrapped = true ↔ slots.size ≤ kept.length := by
  have hflag : map.hasWrapped = decide (slots.toList.getLast? ≠ some []) := by
    simp [hasWrapped, h.slots_eq]
  rw [hflag, decide_eq_true_iff]
  constructor
  · intro hlast
    by_contra hshort
    have hmissing : slots.size - kept.length ≠ 0 := by omega
    apply hlast
    rw [h.toList_eq_of_le (by omega), List.getLast?_append, List.getLast?_replicate,
      if_neg hmissing, Option.some_or]
  · intro hle hlast
    have hmem : [] ∈ slots.toList.rotate map.writePos :=
      List.mem_rotate.mpr (List.mem_of_getLast? hlast)
    rw [h.rotate_eq_of_le hle] at hmem
    obtain ⟨outcome, -, houtcome⟩ := List.mem_map.mp (List.mem_of_mem_drop hmem)
    exact plan.ofOutcome_ne outcome houtcome

theorem cells_rtake (plan : Plan) (kept : List Outcome) (n : Nat) :
    plan.cells (kept.rtake n) = (plan.cells kept).rtake n := by
  rw [List.rtake, List.rtake, plan.length_cells]
  exact List.map_drop ..

/-- The glyphs of the last outcomes, the oldest first: of all of them, or of as many as the bound
allows. -/
def window (glyphs : Glyphs) (bound : Nat) (kept : List Outcome) : Text :=
  ((kept.rtake (Nat.min kept.length bound)).map glyphs.ofOutcome).flatten

theorem window_eq (glyphs : Glyphs) (bound : Nat) (kept : List Outcome) :
    window glyphs bound kept = ((kept.rtake bound).map glyphs.ofOutcome).flatten := by
  have hmin : Nat.min kept.length bound = min kept.length bound := rfl
  have hcount : kept.length - Nat.min kept.length bound = kept.length - bound := by omega
  rw [window, List.rtake, List.rtake, hcount]

/-- **A map with a layout shows the last outcomes**, as many as it may hold. -/
theorem Layout.render_eq (h : Layout plan map slots kept) :
    map.render = window plan.glyphs map.maxCapacity kept := by
  show map.render = (plan.cells (kept.rtake (Nat.min kept.length map.maxCapacity))).flatten
  have hle : map.writePos ≤ slots.size := by
    rw [h.writePos_eq]
    exact Ring.writePosition_le h.size_pos _
  have hlength : slots.toList.length = slots.size := Array.length_toList
  by_cases hwrapped : slots.size ≤ kept.length
  · have hflag := h.hasWrapped_iff.mpr hwrapped
    have hmin : Nat.min kept.length map.maxCapacity = slots.size := by
      rcases h.size_le.lt_or_eq with hlt | heq
      · have hkept := h.early hlt
        exact (Nat.min_eq_left (by omega)).trans (by omega)
      · rw [← heq]
        exact Nat.min_eq_right hwrapped
    rw [hmin, cells_rtake, ← h.rotate_eq_of_le hwrapped]
    -- What is behind the write position is older than what is in front of it.
    by_cases hend : map.writePos < slots.size
    · rw [List.rotate_eq_drop_append_take (by omega), List.flatten_append]
      simp [render, h.slots_eq, hflag, hend]
    · have hfull : map.writePos = slots.toList.length := by omega
      have hall : slots.toList.take slots.size = slots.toList :=
        List.take_of_length_le hlength.le
      rw [hfull, List.rotate_length]
      simp [render, h.slots_eq, hflag, hfull, hall]
  · have hflag : map.hasWrapped = false :=
      Bool.eq_false_iff.mpr fun hflag => hwrapped (h.hasWrapped_iff.mp hflag)
    have hkept : kept.length ≤ slots.size := by omega
    have hmin : Nat.min kept.length map.maxCapacity = kept.length :=
      Nat.min_eq_left (hkept.trans h.size_le)
    have hpos : map.writePos = kept.length := by
      rw [h.writePos_eq, Ring.writePosition_of_le hkept]
    rw [hmin, List.rtake, Nat.sub_self, List.drop_zero]
    simp only [render, h.slots_eq, hflag, Bool.false_and, Bool.false_eq_true, if_false]
    rw [h.toList_eq_of_le hkept, hpos, ← plan.length_cells kept, List.take_left']
    rfl

end OutcomeMap

end Probing
