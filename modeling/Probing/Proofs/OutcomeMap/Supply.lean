import Probing.Proofs.OutcomeMap.Window

/-!
# Maps that are supplied with slots

A map records outcome after outcome with one source of slots that never fails. Unless its first
request is refused, it shows a window on all of them. When the source grants every size up to the
capacity, the window has the size of the capacity, however many requests it took to get there.

## Main definitions

* `Allocator.Supplies`: the source grants every size up to a limit
* `OutcomeMap.recordEach`: the map after records of the given outcomes

## Main results

* `OutcomeMap.maxCapacity_recordEach`: a map that is supplied never lowers its capacity
* `OutcomeMap.render_recordEach`: what a map shows after records of the given outcomes
-/

namespace Probing

namespace Allocator

/-- A source of slots that grants every size up to a limit. -/
def Supplies (source : Allocator) (limit : Nat) : Prop :=
  ∀ size ≤ limit, source (.ofNat size) = .granted size

theorem standard_supplies : standard.Supplies slotLimit := by
  intro size hsize
  have hrange : (0 : Int) ≤ size ∧ (size : Int) ≤ slotLimit := by omega
  have hsize : (Number.ofNat size).toInt? = some (size : Int) :=
    Number.toInt?_eq_some_iff.mpr rfl
  unfold standard
  simp only [hsize, hrange, and_self, if_true, Int.toNat_natCast]

theorem Supplies.mono {source : Allocator} {limit lower : Nat} (h : source.Supplies limit)
    (hle : lower ≤ limit) : source.Supplies lower :=
  fun size hsize => h size (hsize.trans hle)

end Allocator

namespace OutcomeMap

/-- The map after records of the given outcomes. -/
def recordEach (map : OutcomeMap) (outcomes : List Outcome) : OutcomeMap :=
  outcomes.foldl (fun map outcome => (map.record outcome).map) map

theorem recordEach_concat (map : OutcomeMap) (outcomes : List Outcome) (outcome : Outcome) :
    map.recordEach (outcomes ++ [outcome]) = ((map.recordEach outcomes).record outcome).map :=
  List.foldl_concat ..

variable {plan : Plan} {map : OutcomeMap} {source : Allocator}

/-! ## Sources that never fail -/

/-- An outcome that arrives when the usual source has slots. -/
def Arrival.supplied (outcome : Outcome) : Arrival :=
  ⟨.standard, Allocator.standard_exact, outcome⟩

/-- An outcome that arrives when there are no slots left. -/
def Arrival.unsupplied (outcome : Outcome) : Arrival :=
  ⟨.exhausted, Allocator.exhausted_exact, outcome⟩

theorem Arrival.supplied_steady (outcome : Outcome) : (supplied outcome).source.Steady :=
  Allocator.standard_steady

theorem Arrival.unsupplied_steady (outcome : Outcome) : (unsupplied outcome).source.Steady :=
  Allocator.exhausted_steady

theorem receive_returned (map : OutcomeMap) {arrival : Arrival} (h : arrival.source.Steady) :
    (map.receive arrival).failure = none := by
  have hreturned : (map.withSource arrival.source).Returned (map.receive arrival) :=
    record_returned h arrival.outcome
  exact hreturned.1

/-- A run whose sources never fail keeps every outcome. -/
theorem kept_recordAll (map : OutcomeMap) {arrivals : List Arrival}
    (hsteady : ∀ arrival ∈ arrivals, arrival.source.Steady) :
    (map.recordAll arrivals).kept = arrivals.map Arrival.outcome := by
  induction arrivals using List.reverseRecOn with
  | nil => rfl
  | append_singleton arrivals arrival ih =>
    have hlast : arrival.source.Steady := hsteady arrival (by simp)
    have hreturned := receive_returned (map.recordAll arrivals).map hlast
    rw [recordAll_concat, Run.next_of_returned hreturned, List.map_append,
      ih fun other hother => hsteady other (by simp [hother])]
    rfl

/-- The first request of such a run is answered at once. -/
theorem firstAnswer?_ne_none (plan : Plan) {arrivals : List Arrival}
    (hsteady : ∀ arrival ∈ arrivals, arrival.source.Steady) (hne : arrivals ≠ []) :
    firstAnswer? plan arrivals ≠ none := by
  obtain ⟨arrival, rest, rfl⟩ := List.exists_cons_of_ne_nil hne
  intro hnone
  have hunsettled := List.find?_eq_none.mp hnone (arrival.source (.ofNat plan.firstSize)) (by simp)
  cases hanswer : arrival.source (.ofNat plan.firstSize) with
  | granted n => exact hunsettled (by rw [hanswer]; rfl)
  | refused reason => exact hunsettled (by rw [hanswer]; rfl)
  | failed reason => exact hsteady arrival (by simp) _ _ hanswer

/-- A run that had an answer and is still on has slots. -/
theorem Tracks.exists_layout {run : Run} {answer? : Option Allocation} (h : Tracks plan run answer?)
    (henabled : run.map.enabled = true) (hanswered : answer? ≠ none) :
    ∃ slots, Layout plan run.map slots run.kept := by
  match answer?, h with
  | none, _ => exact absurd rfl hanswered
  | some (.granted _), hlayout => exact hlayout
  | some (.refused _), ⟨hoff, _⟩ =>
    rw [hoff] at henabled
    cases henabled

/-! ## One source for all records -/

/-- Outcomes that all arrive with the same source of slots. -/
def arrivalsWith (source : Allocator) (hexact : source.Exact) (outcomes : List Outcome) :
    List Arrival :=
  outcomes.map fun outcome => { source, exact := hexact, outcome }

theorem storage_recordEach (hsteady : map.storage.allocate.Steady) (outcomes : List Outcome) :
    (map.recordEach outcomes).storage = map.storage := by
  induction outcomes using List.reverseRecOn with
  | nil => rfl
  | append_singleton outcomes outcome ih =>
    have hbefore : (map.recordEach outcomes).storage.allocate.Steady := by rwa [ih]
    rw [recordEach_concat, (record_returned hbefore outcome).2, ih]

/-- A run whose source is always that of the map, and never fails, keeps every outcome. -/
theorem recordAll_arrivalsWith (hsource : map.storage.allocate = source) (hexact : source.Exact)
    (hsteady : source.Steady) (outcomes : List Outcome) :
    map.recordAll (arrivalsWith source hexact outcomes) = ⟨map.recordEach outcomes, outcomes⟩ := by
  subst hsource
  induction outcomes using List.reverseRecOn with
  | nil => rfl
  | append_singleton outcomes outcome ih =>
    have hstorage := storage_recordEach hsteady outcomes
    have hbefore : (map.recordEach outcomes).storage.allocate.Steady := by rwa [hstorage]
    have hreceive : (map.recordEach outcomes).receive ⟨_, hexact, outcome⟩ =
        (map.recordEach outcomes).record outcome :=
      receive_eq_record _ _ (by rw [hstorage])
    have hreturned := (record_returned hbefore outcome).1
    rw [arrivalsWith, List.map_append, ← arrivalsWith, recordEach_concat]
    refine (recordAll_concat ..).trans ?_
    rw [ih, Run.next_of_returned (by rw [hreceive, hreturned]), hreceive]

/-- With one source there is one answer to the first request, which is made with the first
outcome. -/
theorem firstAnswer?_arrivalsWith (hexact : source.Exact) (outcomes : List Outcome)
    (hgranted : source (.ofNat plan.firstSize) = .granted plan.firstSize) (reason : Text) :
    firstAnswer? plan (arrivalsWith source hexact outcomes) ≠ some (.refused reason) := by
  intro hrefused
  have hmem := List.mem_of_find?_eq_some hrefused
  obtain ⟨arrival, harrival, hanswer⟩ := List.mem_map.mp hmem
  obtain ⟨outcome, -, rfl⟩ := List.mem_map.mp harrival
  exact Allocation.noConfusion (hgranted.symm.trans hanswer)

/-- What a run with one steady source has come to. -/
theorem tracks_recordEach (plan : Plan) (hexact : source.Exact) (hsteady : source.Steady)
    (outcomes : List Outcome) :
    Tracks plan ⟨(plan.empty source).recordEach outcomes, outcomes⟩
      (firstAnswer? plan (arrivalsWith source hexact outcomes)) := by
  have hrun : (plan.empty source).recordAll (arrivalsWith source hexact outcomes) =
      ⟨(plan.empty source).recordEach outcomes, outcomes⟩ :=
    recordAll_arrivalsWith rfl hexact hsteady outcomes
  rw [← hrun]
  exact tracks_recordAll plan source (arrivalsWith source hexact outcomes)

/-! ## The capacity of a map that is supplied -/

/-- A run whose first request was not refused has a map made from the plan. -/
theorem Tracks.follows {run : Run} {answer? : Option Allocation} (h : Tracks plan run answer?)
    (hadmitted : ∀ reason, answer? ≠ some (.refused reason)) : Follows plan run.map := by
  match answer?, h with
  | none, ⟨hwaiting, _⟩ => exact hwaiting.toFollows
  | some (.granted _), ⟨_, hlayout⟩ => exact hlayout.toFollows
  | some (.refused reason), _ => exact absurd rfl (hadmitted reason)

/-- A first request brings slots or switches the map off, and does nothing else. -/
theorem acquire_map (map : OutcomeMap) :
    ∃ slots enabled, map.acquire.map = { map with slots, enabled } := by
  unfold acquire
  dsimp only
  cases map.storage.allocate map.firstRequest with
  | granted n => exact ⟨_, map.enabled, rfl⟩
  | refused reason => exact ⟨map.slots, _, rfl⟩
  | failed reason => exact ⟨map.slots, map.enabled, rfl⟩

theorem Follows.acquire (h : Follows plan map) : Follows plan map.acquire.map := by
  obtain ⟨slots, enabled, hmap⟩ := acquire_map map
  rw [hmap]
  exact ⟨h.glyphs_eq, h.ceiling_eq, h.step_eq, h.capacity_le⟩

/-- A growth that is granted leaves the capacity as it is. -/
theorem Follows.maxCapacity_grow (h : Follows plan map)
    (hsupplies : map.storage.allocate.Supplies plan.capacity) (slots : Array Text) :
    (map.grow slots).map.maxCapacity = map.maxCapacity := by
  unfold grow
  split
  · rfl
  · have hsize : growthSize plan map slots.size ≤ plan.capacity :=
      (growthSize_le slots.size).trans h.capacity_le
    simp only [h.growthRequest_eq, hsupplies _ hsize]

theorem Follows.maxCapacity_append (h : Follows plan map)
    (hsupplies : map.storage.allocate.Supplies plan.capacity) (slots : Array Text)
    (outcome : Outcome) : (map.append slots outcome).map.maxCapacity = map.maxCapacity := by
  have hgrow := h.maxCapacity_grow hsupplies slots
  unfold OutcomeMap.append
  dsimp only
  split
  · cases (map.grow slots).failure with
    | none => exact hgrow
    | some reason => exact hgrow
  · rfl

/-- **One record keeps the capacity** of a map that is supplied. -/
theorem Follows.maxCapacity_record (h : Follows plan map)
    (hsupplies : map.storage.allocate.Supplies plan.capacity) (outcome : Outcome) :
    (map.record outcome).map.maxCapacity = map.maxCapacity := by
  rcases record_cases map outcome with
    hrecord | ⟨slots, -, hrecord⟩ | ⟨-, -, hrecord⟩ | ⟨slots, -, -, hmap, -⟩
  · rw [hrecord]
  · rw [hrecord]
    exact h.maxCapacity_append hsupplies slots outcome
  · obtain ⟨first, enabled, hacquired⟩ := acquire_map map
    rw [hrecord, hacquired]
  · obtain ⟨first, enabled, hacquired⟩ := acquire_map map
    have hcapacity : map.acquire.map.maxCapacity = map.maxCapacity := by rw [hacquired]
    have hstorage : map.acquire.map.storage = map.storage := by rw [hacquired]
    have happend := h.acquire.maxCapacity_append (by rwa [hstorage]) slots outcome
    rw [hmap]
    exact happend.trans hcapacity

/-- **A map that is supplied never lowers its capacity.** -/
theorem maxCapacity_recordEach (plan : Plan) (hexact : source.Exact) (hsteady : source.Steady)
    (hsupplies : source.Supplies plan.capacity) (outcomes : List Outcome) :
    ((plan.empty source).recordEach outcomes).maxCapacity = plan.capacity := by
  have hfirst := hsupplies plan.firstSize (Nat.min_le_left _ _)
  induction outcomes using List.reverseRecOn with
  | nil => rfl
  | append_singleton outcomes outcome ih =>
    have hfollows : Follows plan ((plan.empty source).recordEach outcomes) :=
      (tracks_recordEach plan hexact hsteady outcomes).follows
        (firstAnswer?_arrivalsWith hexact outcomes hfirst)
    have hstorage : ((plan.empty source).recordEach outcomes).storage = plan.storage source :=
      storage_recordEach hsteady outcomes
    rw [recordEach_concat, hfollows.maxCapacity_record (by rwa [hstorage]), ih]

/-- **What a map shows** after records of the given outcomes, when its first request is granted: a
window on them, of the size of its capacity. -/
theorem render_recordEach (plan : Plan) (hexact : source.Exact) (hsteady : source.Steady)
    (hgranted : source (.ofNat plan.firstSize) = .granted plan.firstSize)
    (outcomes : List Outcome) :
    ((plan.empty source).recordEach outcomes).render =
      window plan.glyphs ((plan.empty source).recordEach outcomes).maxCapacity outcomes :=
  ((tracks_recordEach plan hexact hsteady outcomes).render_of_admitted
    (firstAnswer?_arrivalsWith hexact outcomes hgranted)).2

end OutcomeMap

end Probing
