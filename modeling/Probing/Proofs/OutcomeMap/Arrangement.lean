import Probing.Proofs.OutcomeMap.Supply

/-!
# The arrangement of an outcome map

Where an outcome lies in storage depends on nothing but its number and the number of slots: it went
to the slot that its number leaves as a remainder, and each slot holds the latest outcome that went
there. Slots are added only as long as nothing was overwritten. An outcome recorded before that is
therefore where it would be if the slots had been there from the start, and the law holds for the
present number of slots, however the source of slots answered on the way.

## Main definitions

* `Ring.IsLatest`: the latest entry that went into a slot
* `Ring.Arranged`: the entries of a history in storage order
* `OutcomeMap.Arranged`: a map whose slots, positions and views are those of a history
* `OutcomeMap.slotsView`: the text of outcomes in storage order

## Main results

* `Ring.Holds.slots_eq`: the slots of a ring are its entries in storage order, then empty ones
* `OutcomeMap.Tracks.renderSlots_of_admitted`: what the slots of a map show
* `OutcomeMap.Layout.arranged`: a map with a layout is arranged
* `OutcomeMap.arranged_recordAll`: so is a map that stays on after any records
-/

namespace Probing

namespace Ring

variable {α β : Type}

/-! ## Storage order -/

/-- The latest of so many recorded entries that went into a slot, by its number from zero. -/
structure IsLatest (capacity recorded slot number : Nat) : Prop where
  lt : number < recorded
  mod_eq : number % capacity = slot
  le_of_mod_eq : ∀ other < recorded, other % capacity = slot → other ≤ number

/-- The number of the entry that is due for a slot: as many laps behind the number of the slot as
there were. -/
def latest (capacity recorded slot : Nat) : Nat :=
  slot + (recorded - 1 - slot) / capacity * capacity

theorem isLatest_latest {capacity recorded slot : Nat} (hcapacity : slot < capacity)
    (hrecorded : slot < recorded) :
    IsLatest capacity recorded slot (latest capacity recorded slot) where
  lt := by
    have hlaps := Nat.div_mul_le_self (recorded - 1 - slot) capacity
    unfold latest
    omega
  mod_eq := by rw [latest, Nat.add_mul_mod_self_right, Nat.mod_eq_of_lt hcapacity]
  le_of_mod_eq := by
    intro other hother hmod
    have hlap : slot + capacity * (other / capacity) = other := by
      rw [← hmod]
      exact Nat.mod_add_div other capacity
    have hlaps : other / capacity ≤ (recorded - 1 - slot) / capacity := by
      rw [Nat.le_div_iff_mul_le (by omega), Nat.mul_comm]
      omega
    calc other = slot + other / capacity * capacity := by rw [Nat.mul_comm, hlap]
      _ ≤ latest capacity recorded slot :=
        Nat.add_le_add_left (Nat.mul_le_mul_right capacity hlaps) slot

/-- The entries of a history in storage order: as many as fit, and in each slot the latest. -/
structure Arranged (capacity : Nat) (history stored : List α) : Prop where
  length_eq : stored.length = min capacity history.length
  getElem?_eq : ∀ {slot number : Nat},
    IsLatest capacity history.length slot number → stored[slot]? = history[number]?

theorem IsLatest.unique {capacity recorded slot number number' : Nat}
    (h : IsLatest capacity recorded slot number) (h' : IsLatest capacity recorded slot number') :
    number = number' :=
  Nat.le_antisymm (h'.le_of_mod_eq number h.lt h.mod_eq) (h.le_of_mod_eq number' h'.lt h'.mod_eq)

theorem exists_arranged {capacity : Nat} (hcapacity : 0 < capacity) (history : List α) :
    ∃ stored, Arranged capacity history stored := by
  have hlatest (slot : Fin (min capacity history.length)) :=
    isLatest_latest (slot.isLt.trans_le (Nat.min_le_left ..))
      (slot.isLt.trans_le (Nat.min_le_right ..))
  refine ⟨List.ofFn fun slot => history.get ⟨_, (hlatest slot).lt⟩, List.length_ofFn, ?_⟩
  intro slot number h
  have hslot : slot < min capacity history.length := by
    have hlt := h.lt
    have hmod := h.mod_eq
    have hle := Nat.mod_le number capacity
    have hcap := Nat.mod_lt number hcapacity
    omega
  have hnumber := h.unique (hlatest ⟨slot, hslot⟩)
  subst hnumber
  simp [hslot, h.lt]

/-- Nothing is out of order before the first lap is over. -/
theorem Arranged.eq_of_le {capacity : Nat} {history stored : List α}
    (h : Arranged capacity history stored) (hle : history.length ≤ capacity) :
    stored = history := by
  have hlength := h.length_eq
  apply List.ext_getElem?
  intro slot
  by_cases hslot : slot < history.length
  · refine h.getElem?_eq ⟨hslot, Nat.mod_eq_of_lt (by omega), fun other hother hmod => ?_⟩
    rw [Nat.mod_eq_of_lt (by omega)] at hmod
    exact hmod.le
  · rw [List.getElem?_eq_none (by omega), List.getElem?_eq_none (by omega)]

/-! ## The slots of a ring -/

variable {empty : α} {slots history : List α}

/-- A slot holds the latest entry that went there. -/
theorem Holds.getElem?_of_isLatest (h : Holds empty slots history) {slot number : Nat}
    (hslot : slot < slots.length) (hlatest : IsLatest slots.length history.length slot number) :
    slots[slot]? = history[number]? := by
  have hlt := hlatest.lt
  rcases Nat.le_total history.length slots.length with hle | hle
  · have hnumber : number = slot := by
      rw [← hlatest.mod_eq, Nat.mod_eq_of_lt (by omega)]
    subst hnumber
    calc slots[number]?
        = (history ++ List.replicate (slots.length - history.length) empty)[number]? :=
          congrArg (fun cells => cells[number]?) (h.slots_eq_of_le hle)
      _ = history[number]? := List.getElem?_append_left hlt
  · -- The entry is one of the last ones, for the next lap would have overwritten an earlier one.
    have hrecent : history.length - slots.length ≤ number := by
      by_contra hearly
      have hnext := hlatest.le_of_mod_eq (number + slots.length) (by omega)
        (by rw [Nat.add_mod_right, hlatest.mod_eq])
      omega
    have hposition : writePosition slots.length history.length =
        (history.length - 1) % slots.length + 1 := if_neg (by omega)
    have hlaps := Nat.mod_add_div (history.length - 1) slots.length
    have hindex : (number - (history.length - slots.length) +
        writePosition slots.length history.length) % slots.length = slot := by
      rw [← hlatest.mod_eq, ← Nat.add_mod_right number,
        ← Nat.add_mul_mod_self_left _ slots.length ((history.length - 1) / slots.length),
        hposition]
      congr 1
      omega
    calc slots[slot]?
        = (slots.rotate (writePosition slots.length history.length))[
            number - (history.length - slots.length)]? := by
          rw [List.getElem?_rotate (by omega), hindex]
      _ = history[number]? := by
          rw [h.rotate_eq_of_le hle, List.rtake, List.getElem?_drop]
          congr 1
          omega

/-- **The slots of a ring** are its entries in storage order, followed by empty ones. -/
theorem Holds.slots_eq {entries stored : List β} {f : β → α}
    (h : Holds empty slots (entries.map f)) (harranged : Arranged slots.length entries stored) :
    slots = stored.map f ++ List.replicate (slots.length - entries.length) empty := by
  have hlength := harranged.length_eq
  apply List.ext_getElem?
  intro slot
  by_cases hwritten : slot < min slots.length entries.length
  · have hlatest := isLatest_latest (hwritten.trans_le (Nat.min_le_left ..))
      (hwritten.trans_le (Nat.min_le_right ..))
    rw [List.getElem?_append_left (by simpa [hlength] using hwritten), List.getElem?_map,
      harranged.getElem?_eq hlatest, ← List.getElem?_map]
    exact h.getElem?_of_isLatest (hwritten.trans_le (Nat.min_le_left ..))
      (by rwa [List.length_map])
  · by_cases hle : entries.length ≤ slots.length
    · have hslots := h.slots_eq_of_le (by simpa using hle)
      rw [List.length_map] at hslots
      have hstored : (stored.map f).length = (entries.map f).length := by simp [hlength, hle]
      rw [List.getElem?_append_right (by simp; omega), hstored,
        ← List.getElem?_append_right (by simp; omega), ← hslots]
    · rw [List.getElem?_eq_none (by omega), List.getElem?_eq_none (by simp; omega)]

end Ring

namespace OutcomeMap

variable {plan : Plan} {map : OutcomeMap} {slots : Array Text} {kept : List Outcome}

/-! ## The slots of a map -/

/-- A map that lies in storage as its plan, the number of its slots and the recorded outcomes
determine. The outcomes `stored` are the recorded ones in storage order. -/
structure Arranged (plan : Plan) (outcomes : List Outcome) (map : OutcomeMap) (slots : Array Text)
    (stored : List Outcome) : Prop where
  slots_eq : map.slots = some slots
  capacity_eq : map.capacity = slots.size
  arranged : Ring.Arranged map.capacity outcomes stored
  writePos_pos : 0 < map.writePos
  writePos_le : map.writePos ≤ map.capacity
  capacity_le : map.capacity ≤ map.maxCapacity
  maxCapacity_le : map.maxCapacity ≤ plan.capacity
  writePos_eq : map.writePos = (outcomes.length - 1) % map.capacity + 1
  hasWrapped_iff : map.hasWrapped = true ↔ map.capacity ≤ outcomes.length
  unwritten_iff : ∀ slot < map.capacity, slots[slot]? = some [] ↔ outcomes.length ≤ slot
  /-- Every other slot holds the glyph of the latest outcome that went there. -/
  written : ∀ slot < map.capacity, slot < outcomes.length →
    ∃ number outcome, Ring.IsLatest map.capacity outcomes.length slot number ∧
      outcomes[number]? = some outcome ∧ slots[slot]? = some (plan.glyphs.ofOutcome outcome)
  /-- The debug view is a line of the slots, unwritten ones as spaces, and a caret below the write
  position. -/
  renderSlots_eq : map.renderSlots =
    (plan.cells stored).flatten ++ List.replicate (map.capacity - outcomes.length) (unit ' ')
      ++ unit '\n' :: List.replicate map.writePos (unit ' ') ++ [unit '^']

theorem Layout.toList_eq (h : Layout plan map slots kept) {stored : List Outcome}
    (hstored : Ring.Arranged slots.size kept stored) :
    slots.toList = plan.cells stored ++ List.replicate (slots.size - kept.length) [] := by
  rw [← Array.length_toList] at hstored ⊢
  exact h.holds.slots_eq hstored

/-- The number of slots does not matter as long as nothing was overwritten: the outcomes lie as in
a ring of as many slots as the capacity allows. -/
theorem Layout.exists_stored (h : Layout plan map slots kept) :
    ∃ stored, Ring.Arranged map.maxCapacity kept stored ∧
      slots.toList = plan.cells stored ++ List.replicate (slots.size - kept.length) [] := by
  obtain ⟨stored, hstored⟩ := Ring.exists_arranged (h.size_pos.trans_le h.size_le) kept
  refine ⟨stored, hstored, ?_⟩
  rcases h.size_le.lt_or_eq with hlt | heq
  · have hkept := h.early hlt
    rw [hstored.eq_of_le (hkept.trans h.size_le)]
    exact h.toList_eq_of_le hkept
  · rw [← heq] at hstored
    exact h.toList_eq hstored

/-- Glyphs are shown as they are, and an empty slot as a space. -/
theorem renderSlots_of_toList_eq {stored : List Outcome} {missing : Nat}
    (hslots : map.slots = some slots)
    (htoList : slots.toList = plan.cells stored ++ List.replicate missing []) :
    map.renderSlots = (plan.cells stored).flatten ++ List.replicate missing (unit ' ')
      ++ unit '\n' :: List.replicate map.writePos (unit ' ') ++ [unit '^'] := by
  have hcells : (plan.cells stored).map (fun glyph => if glyph = [] then [unit ' '] else glyph) =
      plan.cells stored := by
    refine (List.map_congr_left fun glyph hglyph => ?_).trans (List.map_id _)
    obtain ⟨outcome, -, rfl⟩ := List.mem_map.mp hglyph
    exact if_neg (plan.ofOutcome_ne outcome)
  simp only [renderSlots, hslots, Option.map_some, Option.getD_some, htoList, List.map_append,
    hcells, List.map_replicate, List.flatten_append, if_true, List.flatten_replicate_singleton]

/-- The slots of a map as they are shown: outcomes in storage order, unwritten slots as spaces, and
a caret in a second line. -/
def slotsView (glyphs : Glyphs) (stored : List Outcome) (missing position : Nat) : Text :=
  (stored.map glyphs.ofOutcome).flatten ++ List.replicate missing (unit ' ')
    ++ unit '\n' :: List.replicate position (unit ' ') ++ [unit '^']

/-- **What the slots of a map show**, unless its first request was refused: the outcomes kept, in
the storage order of a ring of as many slots as its capacity. -/
theorem Tracks.renderSlots_of_admitted {run : Run} {answer? : Option Allocation}
    (h : Tracks plan run answer?) (hadmitted : ∀ reason, answer? ≠ some (.refused reason)) :
    ∃ stored missing position, Ring.Arranged run.map.maxCapacity run.kept stored ∧
      run.map.renderSlots = slotsView plan.glyphs stored missing position := by
  match answer?, h with
  | none, ⟨hwaiting, hkept⟩ =>
    have hcapacity : 0 < run.map.maxCapacity := hwaiting.capacity_eq ▸ plan.capacity_pos
    obtain ⟨stored, hstored⟩ := Ring.exists_arranged hcapacity run.kept
    refine ⟨stored, 0, 0, hstored, ?_⟩
    rw [hstored.eq_of_le (by simp [hkept]), hkept]
    simp [renderSlots, slotsView, hwaiting.slots_eq, hwaiting.writePos_eq]
  | some (.granted granted), ⟨slots, hlayout⟩ =>
    obtain ⟨stored, hstored, htoList⟩ := hlayout.exists_stored
    exact ⟨stored, _, _, hstored, renderSlots_of_toList_eq hlayout.slots_eq htoList⟩
  | some (.refused reason), _ => exact absurd rfl (hadmitted reason)

/-- The same after records of the given outcomes. -/
theorem renderSlots_recordEach (plan : Plan) {source : Allocator} (hexact : source.Exact)
    (hsteady : source.Steady)
    (hgranted : source (.ofNat plan.firstSize) = .granted plan.firstSize)
    (outcomes : List Outcome) :
    ∃ stored missing position,
      Ring.Arranged ((plan.empty source).recordEach outcomes).maxCapacity outcomes stored ∧
      ((plan.empty source).recordEach outcomes).renderSlots =
        slotsView plan.glyphs stored missing position :=
  (tracks_recordEach plan hexact hsteady outcomes).renderSlots_of_admitted
    (firstAnswer?_arrivalsWith hexact outcomes hgranted)

theorem Layout.getElem?_of_isLatest (h : Layout plan map slots kept) {slot number : Nat}
    (hslot : slot < slots.size) (hlatest : Ring.IsLatest slots.size kept.length slot number) :
    slots[slot]? = (plan.cells kept)[number]? := by
  rw [← Array.getElem?_toList]
  exact h.holds.getElem?_of_isLatest hslot (by rwa [plan.length_cells])

/-- The slots behind the recorded outcomes are empty. -/
theorem Layout.getElem?_of_le (h : Layout plan map slots kept) {slot : Nat}
    (hslot : slot < slots.size) (hle : kept.length ≤ slot) : slots[slot]? = some [] := by
  have hcells := plan.length_cells kept
  rw [← Array.getElem?_toList, h.toList_eq_of_le (by omega), List.getElem?_append_right (by omega)]
  exact List.getElem?_replicate_of_lt (by omega)

/-- **A map with a layout is arranged**, once anything was recorded. -/
theorem Layout.arranged (h : Layout plan map slots kept) (hkept : kept ≠ []) :
    ∃ stored, Arranged plan kept map slots stored := by
  obtain ⟨stored, hstored⟩ := Ring.exists_arranged h.size_pos kept
  have hcapacity := h.capacity_eq
  have hpos : 0 < kept.length := List.length_pos_iff.mpr hkept
  have hposition : map.writePos = (kept.length - 1) % slots.size + 1 := by
    rw [h.writePos_eq, Ring.writePosition, if_neg (by omega)]
  have hwritten : ∀ slot < slots.size, slot < kept.length →
      ∃ number outcome, Ring.IsLatest slots.size kept.length slot number ∧
        kept[number]? = some outcome ∧ slots[slot]? = some (plan.glyphs.ofOutcome outcome) := by
    intro slot hslot hlt
    have hlatest := Ring.isLatest_latest hslot hlt
    have hnumber := List.getElem?_eq_getElem hlatest.lt
    refine ⟨_, _, hlatest, hnumber, ?_⟩
    rw [h.getElem?_of_isLatest hslot hlatest, Plan.cells, List.getElem?_map, hnumber,
      Option.map_some]
  refine ⟨stored, ?_⟩
  exact
    { slots_eq := h.slots_eq
      capacity_eq := hcapacity
      arranged := hcapacity ▸ hstored
      writePos_pos := by omega
      writePos_le := by
        rw [hcapacity, h.writePos_eq]
        exact Ring.writePosition_le h.size_pos _
      capacity_le := hcapacity ▸ h.size_le
      maxCapacity_le := h.capacity_le
      writePos_eq := by rw [hcapacity, hposition]
      hasWrapped_iff := by rw [hcapacity, h.hasWrapped_iff]
      unwritten_iff := by
        rw [hcapacity]
        intro slot hslot
        refine ⟨fun hempty => ?_, h.getElem?_of_le hslot⟩
        by_contra hlt
        obtain ⟨_, outcome, -, -, hglyph⟩ := hwritten slot hslot (Nat.lt_of_not_le hlt)
        exact plan.ofOutcome_ne outcome (Option.some.inj (hglyph.symm.trans hempty))
      written := by
        rw [hcapacity]
        exact hwritten
      renderSlots_eq := by
        rw [hcapacity]
        exact renderSlots_of_toList_eq h.slots_eq (h.toList_eq hstored) }

/-! ## Runs -/

/-- The law of storage order over a whole run: **whatever the source of slots grants or refuses, a
map that stays on is arranged** after any records. -/
theorem arranged_recordAll (plan : Plan) (source : Allocator) {arrivals : List Arrival}
    (hsteady : ∀ arrival ∈ arrivals, arrival.source.Steady) (hne : arrivals ≠ []) :
    ∃ map, create (.ofNat plan.capacity) plan.glyphs (plan.storage source) = .ok map ∧
      ((map.recordAll arrivals).map.enabled = true →
        ∃ slots stored, Arranged plan (arrivals.map Arrival.outcome) (map.recordAll arrivals).map
          slots stored) := by
  refine ⟨plan.empty source, plan.create_eq source, fun henabled => ?_⟩
  have htracks := tracks_recordAll plan source arrivals
  obtain ⟨slots, hlayout⟩ :=
    htracks.exists_layout henabled (firstAnswer?_ne_none plan hsteady hne)
  rw [kept_recordAll _ hsteady] at hlayout
  obtain ⟨stored, harranged⟩ := hlayout.arranged (by simpa using hne)
  exact ⟨slots, stored, harranged⟩

/-- A map of two slots is extended to five, and refused any more when they are full. The next three
outcomes overwrite the first ones. -/
theorem arranged_recordAll_refused_growth :
    let plan : Plan :=
      { capacity := 9, ceiling := 2, step := 3, glyphs := .standard
        capacity_pos := by decide, capacity_le := by decide, ceiling_pos := by decide
        step_pos := by decide, success_ne := by decide, failure_ne := by decide }
    let arrivals :=
      [.success, .failure, .success, .success, .failure].map Arrival.supplied ++
        [.unsupplied .success, .supplied .failure, .supplied .failure]
    (∀ arrival ∈ arrivals, arrival.source.Steady) ∧ arrivals ≠ [] ∧
      ∃ map, create (.ofNat 9) .standard (plan.storage .standard) = .ok map ∧
        (map.recordAll arrivals).map.enabled = true ∧
        ∃ slots stored, Arranged plan (arrivals.map Arrival.outcome) (map.recordAll arrivals).map
            slots stored ∧
          (map.recordAll arrivals).map.capacity = 5 ∧ (map.recordAll arrivals).map.writePos = 3 := by
  intro plan arrivals
  have hsteady : ∀ arrival ∈ arrivals, arrival.source.Steady := by
    simp [arrivals, Arrival.supplied_steady, Arrival.unsupplied_steady]
  have hne : arrivals ≠ [] := by simp [arrivals]
  obtain ⟨map, hcreate, harranged⟩ := arranged_recordAll plan .standard hsteady hne
  obtain rfl := Except.ok.inj ((plan.create_eq .standard).symm.trans hcreate)
  have henabled : ((plan.empty .standard).recordAll arrivals).map.enabled = true := by
    decide +kernel +zetaReduce
  obtain ⟨slots, stored, harranged⟩ := harranged henabled
  have hcapacity : ((plan.empty .standard).recordAll arrivals).map.capacity = 5 := by
    decide +kernel +zetaReduce
  have hposition := harranged.writePos_eq
  rw [hcapacity] at hposition
  exact ⟨hsteady, hne, _, hcreate, henabled, slots, stored, harranged, hcapacity,
    hposition.trans (by decide)⟩

end OutcomeMap

end Probing
