import Mathlib.Algebra.GroupWithZero.Nat
import Mathlib.Data.List.Basic
import Probing.Proofs.Number.Decimal
import Probing.Report

/-!
# The shape of a report

A report is put together with two structuring units: slashes stand between its fields and a line
feed at its end. Numbers and states are written without either, so that only the label and the map
can spoil the shape. A report whose label is flat is one line with as many pieces as there are
fields exactly if its map is flat, too.

## Main definitions

* `Text.IsFlat`: a text without structuring units
* `ReportRequest.fieldCount`: how many fields are requested
* `Report.Readable`: a report that scripts can take apart

## Main results

* `Number.text_isFlat`: numbers are written flat
* `Report.readable_line_iff`: a report is readable exactly if its map is flat
-/

namespace Probing

namespace Text

/-! ## Flat texts -/

/-- A text without the units that structure a report. -/
def IsFlat (t : Text) : Prop :=
  unit '/' ∉ t ∧ unit '\n' ∉ t

instance (t : Text) : Decidable t.IsFlat :=
  inferInstanceAs (Decidable (_ ∧ _))

theorem isFlat_iff {t : Text} : t.IsFlat ↔ ∀ u ∈ t, u ≠ unit '/' ∧ u ≠ unit '\n' := by
  constructor
  · intro h u hu
    exact ⟨fun heq => h.1 (heq ▸ hu), fun heq => h.2 (heq ▸ hu)⟩
  · intro h
    exact ⟨fun hu => (h _ hu).1 rfl, fun hu => (h _ hu).2 rfl⟩

theorem isFlat_nil : IsFlat [] := by decide

theorem isFlat_append {s t : Text} : IsFlat (s ++ t) ↔ s.IsFlat ∧ t.IsFlat := by
  simp only [isFlat_iff, List.forall_mem_append]

theorem IsFlat.subset {s t : Text} (h : t.IsFlat) (hs : s ⊆ t) : s.IsFlat :=
  ⟨fun hu => h.1 (hs hu), fun hu => h.2 (hs hu)⟩

theorem isFlat_flatten {parts : List Text} :
    IsFlat parts.flatten ↔ ∀ part ∈ parts, part.IsFlat := by
  induction parts with
  | nil => simp [isFlat_nil]
  | cons part parts ih => rw [List.flatten_cons, isFlat_append, ih, List.forall_mem_cons]

end Text

namespace Number

/-- **Numbers are written flat.** -/
theorem text_isFlat (n : Number) : n.text.IsFlat := by
  have halphabet : Text.IsFlat alphabet := by decide
  exact halphabet.subset n.text_subset

end Number

/-! ## Pieces -/

namespace Text

/-- A text has one piece more than it has separators. -/
theorem length_splitOn (separator : CodeUnit) (t : Text) :
    (t.splitOn separator).length = t.count separator + 1 := by
  induction t with
  | nil => rfl
  | cons u t ih =>
    rw [List.splitOn_cons_eq_if_modifyHead, List.count_cons]
    split
    · rw [List.length_cons, ih]
    · rw [List.length_modifyHead, ih]

/-- The units of joined parts are those between the parts and those inside them. -/
theorem count_join (u : CodeUnit) (separator : Text) (parts : List Text) :
    (join separator parts).count u =
      (parts.length - 1) * separator.count u + (parts.map (List.count u)).sum := by
  unfold join
  induction parts with
  | nil => simp
  | cons part parts ih =>
    cases parts with
    | nil => simp
    | cons next parts =>
      rw [List.intercalate_cons_cons, List.count_append, List.count_append, ih]
      simp only [List.length_cons, List.map_cons, List.sum_cons, Nat.add_sub_cancel]
      rw [Nat.add_mul, Nat.one_mul]
      omega

/-- A unit that structures a report. -/
def IsStructuring (u : CodeUnit) : Prop :=
  u = unit '/' ∨ u = unit '\n'

theorem IsFlat.count_eq_zero {t : Text} (h : t.IsFlat) {u : CodeUnit} (hu : IsStructuring u) :
    t.count u = 0 := by
  rcases hu with rfl | rfl
  · exact List.count_eq_zero.mpr h.1
  · exact List.count_eq_zero.mpr h.2

end Text

/-! ## Reports -/

/-- How many fields are requested. -/
def ReportRequest.fieldCount (request : ReportRequest) : Nat :=
  [request.showState, request.showSuccesses, request.showFailures, request.map.isSome].count true

theorem ReportRequest.hasFields_iff (request : ReportRequest) :
    request.hasFields = true ↔ 0 < request.fieldCount := by
  rw [fieldCount, List.count_pos_iff]
  simp [hasFields, or_assoc, eq_comm (a := true)]

namespace Report

open Text

/-- A report that scripts can take apart: its only line feed is its last unit, and between the
heading and the line feed slashes separate as many pieces as fields were requested, or there is one
empty piece. -/
def Readable (request : ReportRequest) (label report : Text) : Prop :=
  ∃ body, report = heading request label ++ body ++ "\n" ∧
    unit '\n' ∉ heading request label ++ body ∧
    if request.hasFields then (body.splitOn (unit '/')).length = request.fieldCount
    else body.splitOn (unit '/') = [[]]

variable {snapshot : Tracker.Snapshot}

theorem length_onlyIf (condition : Bool) (t : Text) :
    (onlyIf condition t).length = if condition then 1 else 0 := by
  cases condition <;> rfl

theorem length_fields (hmap : snapshot.map.isSome = snapshot.request.map.isSome) :
    (fields snapshot).length = snapshot.request.fieldCount := by
  unfold fields ReportRequest.fieldCount
  rw [← hmap]
  simp only [List.length_append, length_onlyIf, Option.length_toList, List.count_cons,
    List.count_nil, beq_true]
  omega

theorem forall_mem_onlyIf {P : Text → Prop} {condition : Bool} {t : Text} (ht : P t) :
    ∀ part ∈ onlyIf condition t, P part := by
  cases condition <;> simp [onlyIf, ht]

/-- What holds of the letters of a state and of numbers holds of all fields in front of the map. -/
theorem exists_fields_eq (snapshot : Tracker.Snapshot) {P : Text → Prop} (hmet : P "T")
    (hunmet : P "F") (hnumber : ∀ n : Number, P n.text) :
    ∃ front, fields snapshot = front ++ snapshot.map.toList ∧ ∀ field ∈ front, P field := by
  refine ⟨_, rfl, ?_⟩
  simp only [List.forall_mem_append]
  refine ⟨⟨forall_mem_onlyIf ?_, forall_mem_onlyIf (hnumber _)⟩, forall_mem_onlyIf (hnumber _)⟩
  cases snapshot.conditionMet with
  | true => exact hmet
  | false => exact hunmet

/-- All fields but the map are flat. -/
theorem exists_flat_fields (snapshot : Tracker.Snapshot) :
    ∃ front, fields snapshot = front ++ snapshot.map.toList ∧ ∀ field ∈ front, field.IsFlat :=
  exists_fields_eq snapshot (by decide) (by decide) Number.text_isFlat

/-- The structuring units inside the fields are those of the map. -/
theorem sum_count_fields {u : CodeUnit} (hu : IsStructuring u) :
    ((fields snapshot).map (List.count u)).sum = (snapshot.map.getD []).count u := by
  obtain ⟨front, hfields, hflat⟩ := exists_flat_fields snapshot
  have hfront : (front.map (List.count u)).sum = 0 := by
    refine List.sum_eq_zero_iff_forall_eq_nat.mpr fun n hn => ?_
    obtain ⟨field, hfield, rfl⟩ := List.mem_map.mp hn
    exact (hflat field hfield).count_eq_zero hu
  rw [hfields, List.map_append, List.sum_append, hfront, Nat.zero_add]
  cases snapshot.map <;> simp

/-- The structuring units between heading and end: the slashes between the fields, and those of the
map. -/
theorem count_join_fields (snapshot : Tracker.Snapshot) {u : CodeUnit} (hu : IsStructuring u) :
    (join "/" (fields snapshot)).count u =
      ((fields snapshot).length - 1) * List.count u ("/" : Text) + (snapshot.map.getD []).count u := by
  rw [count_join, sum_count_fields hu]

theorem heading_isFlat {request : ReportRequest} {label : Text} (hlabel : label.IsFlat) :
    (heading request label).IsFlat := by
  unfold heading
  split
  · exact isFlat_nil
  · exact isFlat_append.mpr ⟨hlabel, by decide⟩

/-- Only a report without fields that is not forced is empty. -/
theorem line_eq_nil_iff {label : Text} {force : Bool} :
    line label force snapshot = [] ↔ force = false ∧ snapshot.request.hasFields = false := by
  unfold line
  split
  · next hhidden => simpa using hhidden
  · next hshown =>
    have hend : heading snapshot.request label ++ join "/" (fields snapshot) ++ ("\n" : Text) ≠ [] := by
      intro hnil
      exact absurd (List.append_eq_nil_iff.mp hnil).2 (by decide)
    exact ⟨fun hnil => absurd hnil hend, fun hhidden => absurd (by simp [hhidden]) hshown⟩

theorem line_eq_of_ne_nil {label : Text} {force : Bool} (h : line label force snapshot ≠ []) :
    line label force snapshot =
      heading snapshot.request label ++ join "/" (fields snapshot) ++ "\n" := by
  unfold line at h ⊢
  split at h
  · exact absurd rfl h
  · next hshown => rw [if_neg hshown]

/-- A report depends on the fields and, if it is not empty, on the heading. -/
theorem line_congr {label : Text} {force : Bool} {snapshot' : Tracker.Snapshot}
    (hshown : snapshot.request.hasFields = snapshot'.request.hasFields)
    (hfields : fields snapshot = fields snapshot')
    (hheading : force = true ∨ snapshot.request.hasFields = true →
      heading snapshot.request label = heading snapshot'.request label) :
    line label force snapshot = line label force snapshot' := by
  unfold line
  rw [hfields, ← hshown]
  split
  · rfl
  · next hvisible =>
    have hvisible : force = true ∨ snapshot.request.hasFields = true := by
      cases force
      · exact .inr (by simpa using hvisible)
      · exact .inl rfl
    rw [hheading hvisible]

theorem readable_iff {request : ReportRequest} {label body : Text} :
    Readable request label (heading request label ++ body ++ "\n") ↔
      unit '\n' ∉ heading request label ++ body ∧
        if request.hasFields then (body.splitOn (unit '/')).length = request.fieldCount
        else body.splitOn (unit '/') = [[]] := by
  constructor
  · rintro ⟨body', hreport, hreadable⟩
    obtain rfl : body = body' :=
      List.append_cancel_left (List.append_cancel_right hreport)
    exact hreadable
  · exact fun hreadable => ⟨body, rfl, hreadable⟩

/-- A line feed between heading and end comes from the map. -/
theorem feed_mem_join_fields :
    unit '\n' ∈ join "/" (fields snapshot) ↔ unit '\n' ∈ snapshot.map.getD [] := by
  have hcount := count_join_fields snapshot (u := unit '\n') (.inr rfl)
  have hslash : List.count (unit '\n') ("/" : Text) = 0 := by decide
  rw [hslash, Nat.mul_zero, Nat.zero_add] at hcount
  rw [← List.count_pos_iff, hcount, List.count_pos_iff]

/-- There are as many pieces as fields unless the map has a slash. -/
theorem pieces_iff (hmap : snapshot.map.isSome = snapshot.request.map.isSome) :
    (if snapshot.request.hasFields then
        ((join "/" (fields snapshot)).splitOn (unit '/')).length = snapshot.request.fieldCount
      else (join "/" (fields snapshot)).splitOn (unit '/') = [[]]) ↔
      unit '/' ∉ snapshot.map.getD [] := by
  have hlength := length_fields hmap
  split
  · next hfields =>
    -- One slash stands between each two neighbours, so any other slash makes a piece too many.
    have hpos := snapshot.request.hasFields_iff.mp hfields
    have hslash : List.count (unit '/') ("/" : Text) = 1 := by decide
    rw [length_splitOn, count_join_fields snapshot (.inl rfl), hslash, hlength, ← List.count_eq_zero]
    omega
  · next hfields =>
    rw [snapshot.request.hasFields_iff, Nat.pos_iff_ne_zero, not_not, ← hlength,
      List.length_eq_zero_iff] at hfields
    have hnone : snapshot.map = none := by
      simpa using (List.append_eq_nil_iff.mp hfields).2
    rw [hfields, hnone]
    simp [join]

/-- **A report is readable exactly if its map is flat.** -/
theorem readable_line_iff {label : Text} {force : Bool} (hlabel : label.IsFlat)
    (hmap : snapshot.map.isSome = snapshot.request.map.isSome)
    (hline : line label force snapshot ≠ []) :
    Readable snapshot.request label (line label force snapshot) ↔
      (snapshot.map.getD []).IsFlat := by
  have hheading : unit '\n' ∉ heading snapshot.request label := (heading_isFlat hlabel).2
  rw [line_eq_of_ne_nil hline, readable_iff, pieces_iff hmap, List.mem_append, not_or,
    feed_mem_join_fields, Text.IsFlat]
  exact ⟨fun ⟨⟨_, hfeed⟩, hslash⟩ => ⟨hslash, hfeed⟩,
    fun ⟨hslash, hfeed⟩ => ⟨⟨hheading, hfeed⟩, hslash⟩⟩

end Report

end Probing
