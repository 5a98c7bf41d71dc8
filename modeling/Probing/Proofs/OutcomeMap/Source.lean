import Probing.OutcomeMap.Basic

/-!
# Sources of slots

What a source of slots may be relied on for. An exact source grants the number it is asked for, if
it grants anything; a steady one never fails. A map whose source is steady returns from every
record, and no record replaces the source.

## Main definitions

* `Allocator.Exact`, `Allocator.Steady`: the two kinds of sources
* `OutcomeMap.withSource`: the map with another source
* `OutcomeMap.Returned`: a step that returned and kept the source

## Main results

* `Allocator.standard_exact`, `Allocator.standard_steady`: the usual source is of both kinds
* `OutcomeMap.record_cases`: the four ways a record can go
* `OutcomeMap.record_returned`: a record returns if the source is steady
-/

namespace Probing

namespace Allocator

/-- A source of slots that never grants another number than the requested one. -/
def Exact (source : Allocator) : Prop :=
  ∀ size granted : Nat, source (.ofNat size) = .granted granted → granted = size

/-- A source of slots that grants or refuses every request. -/
def Steady (source : Allocator) : Prop :=
  ∀ size reason, source size ≠ .failed reason

theorem standard_exact : standard.Exact := by
  intro size granted h
  unfold standard at h
  split at h
  · next n hsize =>
    have hn : n = size := by
      simpa [Number.ofNat, Number.toInt?, eq_comm] using hsize
    split at h
    · have hgranted : n.toNat = granted := Allocation.granted.inj h
      omega
    · cases h
  · cases h

theorem standard_steady : standard.Steady := by
  intro size reason
  unfold standard
  cases size.toInt? with
  | none => simp
  | some n =>
    dsimp only
    split <;> simp

/-- The source of slots that has none left. -/
def exhausted : Allocator := fun _ => .refused "Invalid array length"

theorem exhausted_exact : exhausted.Exact := by
  intro size granted h
  cases h

theorem exhausted_steady : exhausted.Steady := by
  intro size reason h
  cases h

end Allocator

namespace OutcomeMap

/-- The map with another source of slots. -/
def withSource (map : OutcomeMap) (source : Allocator) : OutcomeMap :=
  { map with storage := { map.storage with allocate := source } }

/-- A step that returned and kept the source of slots. -/
def Returned (map : OutcomeMap) (step : Step) : Prop :=
  step.failure = none ∧ step.map.storage = map.storage

variable {map : OutcomeMap}

theorem grow_returned (h : map.storage.allocate.Steady) (slots : Array Text) :
    map.Returned (map.grow slots) := by
  unfold grow
  split
  · exact ⟨rfl, rfl⟩
  · dsimp only
    cases hanswer : map.storage.allocate (map.growthRequest slots.size) with
    | granted n => exact ⟨rfl, rfl⟩
    | refused reason => exact ⟨rfl, rfl⟩
    | failed reason => exact absurd hanswer (h _ _)

theorem append_returned (h : map.storage.allocate.Steady) (slots : Array Text)
    (outcome : Outcome) : map.Returned (map.append slots outcome) := by
  have hgrown := grow_returned h slots
  unfold append
  dsimp only
  split
  · cases hfailure : (map.grow slots).failure with
    | none => exact ⟨rfl, hgrown.2⟩
    | some reason => exact absurd (hfailure.symm.trans hgrown.1) (by simp)
  · exact ⟨rfl, rfl⟩

theorem acquire_returned (h : map.storage.allocate.Steady) : map.Returned map.acquire := by
  unfold acquire
  dsimp only
  cases hanswer : map.storage.allocate map.firstRequest with
  | granted n => exact ⟨rfl, rfl⟩
  | refused reason => exact ⟨rfl, rfl⟩
  | failed reason => exact absurd hanswer (h _ _)

/-- The four ways a record can go: the map is off, it has slots, it gets none, or it gets its first
ones. -/
theorem record_cases (map : OutcomeMap) (outcome : Outcome) :
    map.record outcome = { map } ∨
    (∃ slots, map.slots = some slots ∧ map.record outcome = map.append slots outcome) ∨
    (map.slots = none ∧ map.acquire.map.slots = none ∧ map.record outcome = map.acquire) ∨
    ∃ slots, map.slots = none ∧ map.acquire.map.slots = some slots ∧
      (map.record outcome).map = (map.acquire.map.append slots outcome).map ∧
      (map.record outcome).failure = (map.acquire.map.append slots outcome).failure := by
  cases henabled : map.enabled with
  | false => exact .inl (by simp [OutcomeMap.record, henabled])
  | true =>
    right
    cases hslots : map.slots with
    | some slots => exact .inl ⟨slots, rfl, by simp [OutcomeMap.record, henabled, hslots]⟩
    | none =>
      right
      cases hfirst : map.acquire.map.slots with
      | none => exact .inl ⟨rfl, rfl, by simp [OutcomeMap.record, henabled, hslots, hfirst]⟩
      | some slots =>
        refine .inr ⟨slots, rfl, rfl, ?_, ?_⟩ <;>
          simp [OutcomeMap.record, henabled, hslots, hfirst]

/-- A record never fails when the source of slots never does. -/
theorem record_returned (h : map.storage.allocate.Steady) (outcome : Outcome) :
    map.Returned (map.record outcome) := by
  rcases record_cases map outcome with
    hrecord | ⟨slots, -, hrecord⟩ | ⟨-, -, hrecord⟩ | ⟨slots, -, -, hmap, hfailure⟩
  · rw [hrecord]
    exact ⟨rfl, rfl⟩
  · rw [hrecord]
    exact append_returned h slots outcome
  · rw [hrecord]
    exact acquire_returned h
  · have hfirst := acquire_returned h
    have hsteady : map.acquire.map.storage.allocate.Steady := by rwa [hfirst.2]
    obtain ⟨hreturned, hstorage⟩ := append_returned hsteady slots outcome
    rw [Returned, hfailure, hmap]
    exact ⟨hreturned, hstorage.trans hfirst.2⟩

end OutcomeMap

end Probing
