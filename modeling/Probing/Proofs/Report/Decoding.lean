import Probing.Proofs.Number.ReadBack
import Probing.Proofs.Report.Shape
import Probing.Proofs.Tracker.Records

/-!
# Reports can be decoded

A report does not say where its fields end, and the map at its end may contain anything, slashes and
line feeds included. It still determines every field that was requested: the fields in front of the
map are written without slashes, there are as many of them as the request asks for, and no two
counts are written alike.

## Main definitions

* `Report.Regular`: a snapshot with counts, and with a map if one was requested
* `Report.AgreeOn`: two snapshots with the same requested fields

## Main results

* `Report.regular_snapshot`: the snapshots of runs are regular
* `Text.join_inj`: parts can be told apart if all but the last are free of the separator
* `Report.fields_inj`: the fields determine what they show
* `Report.line_decodes`: a report determines its fields, and is empty only for want of them
-/

namespace Probing

namespace Text

/-! ## Joined parts -/

/-- The first separator ends the first part. -/
theorem append_separator_inj {separator : CodeUnit} {part part' rest rest' : Text}
    (hpart : separator ∉ part) (hpart' : separator ∉ part')
    (h : part ++ separator :: rest = part' ++ separator :: rest') : part = part' ∧ rest = rest' := by
  have hlength : part.length = part'.length := by
    have hindex := congrArg (List.idxOf separator) h
    rwa [List.idxOf_append_of_notMem hpart, List.idxOf_append_of_notMem hpart', List.idxOf_cons_self,
      List.idxOf_cons_self] at hindex
  obtain ⟨hsame, hrest⟩ := List.append_inj h hlength
  exact ⟨hsame, (List.cons.inj hrest).2⟩

/-- **Parts can be told apart**, if there are equally many and all but the last are free of the
separator. -/
theorem join_inj {separator : CodeUnit} :
    ∀ {parts parts' : List Text}, parts.length = parts'.length →
      (∀ part ∈ parts.dropLast, separator ∉ part) →
      (∀ part ∈ parts'.dropLast, separator ∉ part) →
      join [separator] parts = join [separator] parts' → parts = parts'
  | [], [], _, _, _, _ => rfl
  | [part], [part'], _, _, _, h => by simpa [join] using h
  | part :: next :: rest, part' :: next' :: rest', hlength, hparts, hparts', h => by
    simp only [join, List.intercalate_cons_cons, List.append_assoc, List.singleton_append] at h
    obtain ⟨hfirst, hlater⟩ := List.forall_mem_cons.mp hparts
    obtain ⟨hfirst', hlater'⟩ := List.forall_mem_cons.mp hparts'
    obtain ⟨rfl, hrest⟩ := append_separator_inj hfirst hfirst' h
    rw [join_inj (Nat.succ.inj hlength) hlater hlater' hrest]

theorem onlyIf_inj {condition : Bool} {t t' : Text} :
    onlyIf condition t = onlyIf condition t' ↔ (condition = true → t = t') := by
  cases condition <;> simp [onlyIf]

end Text

namespace Report

open Text

variable {request : ReportRequest} {snapshot snapshot' : Tracker.Snapshot} {label : Text}
  {force : Bool}

/-! ## Fields -/

/-- A snapshot with counts, and with a map exactly if one was requested. -/
structure Regular (request : ReportRequest) (snapshot : Tracker.Snapshot) : Prop where
  request_eq : snapshot.request = request
  successes_isCount : snapshot.successes.IsCount
  failures_isCount : snapshot.failures.IsCount
  map_isSome : snapshot.map.isSome = request.map.isSome

/-- The snapshots of runs are regular. -/
theorem regular_snapshot {condition : Condition} {expect : Nat} {history : List Outcome}
    {tracker : Tracker} (h : Tracker.Recount condition expect history tracker)
    (hmap : tracker.map.isSome = condition.report.map.isSome)
    (hshort : history.length ≤ Number.exactBound) :
    Regular condition.report tracker.snapshot := by
  rw [h.snapshot_eq]
  exact
    { request_eq := rfl
      successes_isCount := Number.isCount_ofNat (List.count_le_length.trans hshort)
      failures_isCount := Number.isCount_ofNat (List.count_le_length.trans hshort)
      map_isSome := Option.isSome_map.trans hmap }

/-- Two snapshots agree on every field that was requested. -/
structure AgreeOn (request : ReportRequest) (snapshot snapshot' : Tracker.Snapshot) : Prop where
  conditionMet_eq : request.showState = true → snapshot.conditionMet = snapshot'.conditionMet
  successes_eq : request.showSuccesses = true → snapshot.successes = snapshot'.successes
  failures_eq : request.showFailures = true → snapshot.failures = snapshot'.failures
  map_eq : snapshot.map = snapshot'.map

/-- All fields but a map at the end are flat. -/
theorem isFlat_of_mem_dropLast : ∀ field ∈ (fields snapshot).dropLast, field.IsFlat := by
  obtain ⟨front, hfields, hflat⟩ := exists_flat_fields snapshot
  intro field hfield
  rw [hfields] at hfield
  cases hmap : snapshot.map with
  | none =>
    rw [hmap, Option.toList_none, List.append_nil] at hfield
    exact hflat field (List.dropLast_subset _ hfield)
  | some map =>
    rw [hmap, Option.toList_some, List.dropLast_concat] at hfield
    exact hflat field hfield

/-- **The fields determine what they show.** -/
theorem fields_inj (h : Regular request snapshot) (h' : Regular request snapshot') :
    fields snapshot = fields snapshot' ↔ AgreeOn request snapshot snapshot' := by
  have hletters : ∀ met met' : Bool,
      (if met then "T" else "F" : Text) = (if met' then "T" else "F" : Text) → met = met' := by
    decide
  unfold fields
  rw [h.request_eq, h'.request_eq]
  dsimp only
  constructor
  · intro hfields
    obtain ⟨hcounts, hmap⟩ := List.append_inj hfields (by simp [length_onlyIf])
    obtain ⟨hcounts, hfailures⟩ := List.append_inj hcounts (by simp [length_onlyIf])
    obtain ⟨hstate, hsuccesses⟩ := List.append_inj hcounts (by simp [length_onlyIf])
    exact
      { conditionMet_eq := fun hshown => hletters _ _ (onlyIf_inj.mp hstate hshown)
        successes_eq := fun hshown =>
          (Number.text_inj h.successes_isCount h'.successes_isCount).mp
            (onlyIf_inj.mp hsuccesses hshown)
        failures_eq := fun hshown =>
          (Number.text_inj h.failures_isCount h'.failures_isCount).mp
            (onlyIf_inj.mp hfailures hshown)
        map_eq := by simpa using congrArg List.head? hmap }
  · intro hagree
    have hstate : request.showState = true →
        (if snapshot.conditionMet then "T" else "F" : Text) =
          (if snapshot'.conditionMet then "T" else "F" : Text) := by
      intro hshown
      rw [hagree.conditionMet_eq hshown]
    have hsuccesses := fun hshown => congrArg Number.text (hagree.successes_eq hshown)
    have hfailures := fun hshown => congrArg Number.text (hagree.failures_eq hshown)
    rw [onlyIf_inj.mpr hstate, onlyIf_inj.mpr hsuccesses, onlyIf_inj.mpr hfailures, hagree.map_eq]

/-! ## Reports -/

/-- There are as many fields as were requested. -/
theorem Regular.length_fields (h : Regular request snapshot) :
    (fields snapshot).length = request.fieldCount := by
  have hmap : snapshot.map.isSome = snapshot.request.map.isSome := by
    rw [h.request_eq, h.map_isSome]
  rw [Report.length_fields hmap, h.request_eq]

theorem Regular.line_eq_nil_iff (h : Regular request snapshot) :
    line label force snapshot = [] ↔ request.hasFields = false ∧ force = false := by
  rw [Report.line_eq_nil_iff, h.request_eq, and_comm]

/-- The report is a function of the fields, and the fields are one of the report. -/
theorem Regular.line_eq_iff (h : Regular request snapshot) (h' : Regular request snapshot') :
    line label force snapshot = line label force snapshot' ↔ fields snapshot = fields snapshot' := by
  have hlength := h.length_fields.trans h'.length_fields.symm
  have hrequest := h.request_eq.trans h'.request_eq.symm
  constructor
  · intro hline
    by_cases hnil : line label force snapshot = []
    · have hnone : request.fieldCount = 0 := by
        have hhidden := (h.line_eq_nil_iff.mp hnil).1
        rw [← Bool.not_eq_true, request.hasFields_iff] at hhidden
        omega
      rw [List.eq_nil_of_length_eq_zero (h.length_fields.trans hnone),
        List.eq_nil_of_length_eq_zero (h'.length_fields.trans hnone)]
    · have hnil' : line label force snapshot' ≠ [] := hline ▸ hnil
      rw [line_eq_of_ne_nil hnil, line_eq_of_ne_nil hnil', hrequest] at hline
      exact join_inj hlength (fun field hfield => (isFlat_of_mem_dropLast field hfield).1)
        (fun field hfield => (isFlat_of_mem_dropLast field hfield).1)
        (List.append_cancel_left (List.append_cancel_right hline))
  · intro hfields
    exact line_congr (by rw [hrequest]) hfields (by simp [hrequest])

/-- **A report determines its fields.** Two snapshots of one request have the same report exactly if
they agree on every requested field, the whole map included, whatever it contains. The report is
empty only if no field was requested and it is not forced. -/
theorem line_decodes (h : Regular request snapshot) (h' : Regular request snapshot') :
    (line label force snapshot = line label force snapshot' ↔ AgreeOn request snapshot snapshot') ∧
      (line label force snapshot = [] ↔ request.hasFields = false ∧ force = false) :=
  ⟨(h.line_eq_iff h').trans (fields_inj h h'), h.line_eq_nil_iff⟩

/-- A large count is written with an exponent, and the map has a slash, a colon and a line feed. -/
theorem line_decodes_large_count :
    let request : ReportRequest :=
      { showState := true, showSuccesses := true, map := some ⟨.ofNat 9, .standard⟩ }
    let snapshot : Tracker.Snapshot :=
      { request, successes := .ofNat (10 ^ 21), failures := .ofNat 3, conditionMet := true
        map := some "/:\n" }
    let snapshot' : Tracker.Snapshot := { snapshot with failures := .ofNat 4 }
    Regular request snapshot ∧ Regular request snapshot' ∧
      (line "label" false snapshot = line "label" false snapshot' ↔
        AgreeOn request snapshot snapshot') ∧
      line "label" false snapshot = line "label" false snapshot' ∧
      line "label" false snapshot ≠ [] := by
  intro request snapshot snapshot'
  have hregular : Regular request snapshot := ⟨rfl, by decide +kernel, by decide +kernel, rfl⟩
  have hregular' : Regular request snapshot' := ⟨rfl, by decide +kernel, by decide +kernel, rfl⟩
  obtain ⟨hiff, hempty⟩ := @line_decodes request snapshot snapshot' "label" false hregular hregular'
  refine ⟨hregular, hregular', hiff, hiff.mpr ?_, fun hnil => ?_⟩
  · exact ⟨fun _ => rfl, fun _ => rfl, fun hshown => (nomatch hshown), rfl⟩
  · exact absurd (hempty.mp hnil).1 (by decide)

end Report

end Probing
