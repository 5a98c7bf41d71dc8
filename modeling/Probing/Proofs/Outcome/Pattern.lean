import Mathlib.Data.Set.List
import Probing.Outcome.Pattern

/-!
# Reading outcome patterns

Reading a pattern undoes writing one. Blanks may be put anywhere into the signs of a list of
outcomes, and reading takes them out again; it accepts nothing else. A pattern without any sign is
rejected for being empty and for not being made of signs, any other rejected pattern for the latter
alone.

## Main definitions

* `Text.blanks`: the units that are blank, one by one
* `Outcome.Pattern.Spaced`: a text with blanks put into it

## Main results

* `CodeUnit.isBlank_iff_mem`: the blank units
* `Outcome.Pattern.spaced_iff`: putting blanks into a text and taking them out again
* `Outcome.Pattern.read_eq_ok_iff`, `Outcome.Pattern.read_eq_error_iff`: the two ways to answer
* `Outcome.Pattern.read_decodes`: patterns decode what was written
-/

namespace Probing

/-! ## Blanks -/

/-- The units that are blank: the ASCII controls from the tabulator to the carriage return, the
space separators, the line and paragraph separators and the zero-width no-break space. -/
def Text.blanks : List CodeUnit :=
  [0x0009, 0x000A, 0x000B, 0x000C, 0x000D, 0x0020, 0x00A0, 0x1680, 0x2000, 0x2001, 0x2002, 0x2003,
    0x2004, 0x2005, 0x2006, 0x2007, 0x2008, 0x2009, 0x200A, 0x2028, 0x2029, 0x202F, 0x205F, 0x3000,
    0xFEFF]

/-- **The blank units**, one by one. -/
theorem CodeUnit.isBlank_iff_mem (u : CodeUnit) : u.isBlank = true ↔ u ∈ Text.blanks := by
  unfold CodeUnit.isBlank Text.blanks
  simp only [Bool.or_eq_true, Bool.and_eq_true, decide_eq_true_iff, beq_iff_eq, List.mem_cons,
    List.not_mem_nil, or_false, UInt16.le_iff_toNat_le, ← UInt16.toNat_inj]
  simp only [UInt16.reduceToNat]
  omega

theorem Text.removeBlanks_eq (t : Text) : t.removeBlanks = t.filter (· ∉ blanks) := by
  refine List.filter_congr fun u _ => ?_
  rw [Bool.eq_iff_iff, Bool.not_eq_true', decide_eq_true_iff, ← CodeUnit.isBlank_iff_mem,
    Bool.not_eq_true]

namespace Outcome.Pattern

/-! ## Signs -/

theorem outcome?_eq_some_iff {u : CodeUnit} {outcome : Outcome} :
    outcome? u = some outcome ↔ sign outcome = u := by
  constructor
  · intro h
    unfold outcome? at h
    repeat' split at h
    all_goals cases h
    all_goals exact Eq.symm ‹_›
  · rintro rfl
    cases outcome <;> decide

/-- The outcomes of signs are those that are written so. -/
theorem mapM_outcome?_eq_some_iff {signs : Text} {outcomes : List Outcome} :
    signs.mapM outcome? = some outcomes ↔ write outcomes = signs := by
  unfold write
  induction signs generalizing outcomes with
  | nil => cases outcomes <;> simp
  | cons u signs ih =>
    cases outcomes with
    | nil => simp [List.mapM_cons, Option.bind_eq_some_iff]
    | cons outcome rest =>
      simp [List.mapM_cons, Option.bind_eq_some_iff, outcome?_eq_some_iff, ih]

/-- The units that are signs. -/
theorem exists_sign_iff {u : CodeUnit} :
    (∃ outcome, sign outcome = u) ↔ u = unit '+' ∨ u = unit '-' := by
  constructor
  · rintro ⟨outcome, rfl⟩
    cases outcome
    · exact .inl rfl
    · exact .inr rfl
  · rintro (rfl | rfl)
    · exact ⟨.success, rfl⟩
    · exact ⟨.failure, rfl⟩

/-- A text is the writing of some outcomes exactly if all of its units are signs. -/
theorem exists_write_iff {signs : Text} :
    (∃ outcomes, write outcomes = signs) ↔ ∀ u ∈ signs, u = unit '+' ∨ u = unit '-' := by
  show signs ∈ Set.range (List.map sign) ↔ _
  rw [Set.range_list_map]
  exact forall₂_congr fun u _ => exists_sign_iff

/-- Anything but signs stands for no outcomes. -/
theorem mapM_outcome?_eq_none_iff {signs : Text} :
    signs.mapM outcome? = none ↔ ∃ u ∈ signs, u ≠ unit '+' ∧ u ≠ unit '-' := by
  rw [← not_iff_not, ← Ne, Option.ne_none_iff_exists']
  simp only [mapM_outcome?_eq_some_iff, exists_write_iff]
  push Not
  exact forall₂_congr fun u _ => or_iff_not_imp_left

/-! ## Blanks between signs -/

/-- A text with blanks put into it, anywhere and as many as one likes. -/
inductive Spaced : Text → Text → Prop
  | nil : Spaced [] []
  | blank {u : CodeUnit} {t spaced : Text} (hu : u ∈ Text.blanks) (h : Spaced t spaced) :
      Spaced t (u :: spaced)
  | keep (u : CodeUnit) {t spaced : Text} (h : Spaced t spaced) : Spaced (u :: t) (u :: spaced)

/-- Taking the blanks out again leaves the text, if it has none itself. -/
theorem Spaced.filter_eq {t spaced : Text} (h : Spaced t spaced)
    (ht : ∀ u ∈ t, u ∉ Text.blanks) : spaced.filter (· ∉ Text.blanks) = t := by
  induction h with
  | nil => rfl
  | blank hu _ ih => rw [List.filter_cons_of_neg (by simpa using hu), ih ht]
  | keep u _ ih =>
    obtain ⟨hu, ht⟩ := List.forall_mem_cons.mp ht
    rw [List.filter_cons_of_pos (by simpa using hu), ih ht]

theorem spaced_filter (spaced : Text) : Spaced (spaced.filter (· ∉ Text.blanks)) spaced := by
  induction spaced with
  | nil => exact .nil
  | cons u spaced ih =>
    by_cases hu : u ∈ Text.blanks
    · rw [List.filter_cons_of_neg (by simpa using hu)]
      exact .blank hu ih
    · rw [List.filter_cons_of_pos (by simpa using hu)]
      exact .keep u ih

/-- **Putting blanks into a text** without any is undone by taking them out. -/
theorem spaced_iff {t spaced : Text} (ht : ∀ u ∈ t, u ∉ Text.blanks) :
    Spaced t spaced ↔ spaced.filter (· ∉ Text.blanks) = t := by
  constructor
  · exact fun h => h.filter_eq ht
  · rintro rfl
    exact spaced_filter spaced

theorem not_blank_of_mem_write {outcomes : List Outcome} :
    ∀ u ∈ write outcomes, u ∉ Text.blanks := by
  intro u hu
  obtain ⟨outcome, -, rfl⟩ := List.mem_map.mp hu
  cases outcome <;> decide

/-! ## Reading -/

variable {pattern : Text}

/-- **A pattern is accepted** exactly if taking its blanks out leaves the signs of some outcomes, at
least one, and it stands for these. -/
theorem read_eq_ok_iff {outcomes : List Outcome} :
    read pattern = .ok outcomes ↔
      outcomes ≠ [] ∧ write outcomes = pattern.filter (· ∉ Text.blanks) := by
  rw [← Text.removeBlanks_eq, ← mapM_outcome?_eq_some_iff]
  unfold read
  dsimp only
  split
  · next hempty =>
    rw [hempty]
    simp [eq_comm]
  · next hsigns =>
    cases hread : pattern.removeBlanks.mapM outcome? with
    | none => simp
    | some found =>
      have hwritten := mapM_outcome?_eq_some_iff.mp hread
      have hne : found ≠ [] := by
        rintro rfl
        exact hsigns hwritten.symm
      simp only [Except.ok.injEq, Option.some.injEq]
      exact ⟨fun h => ⟨h ▸ hne, h⟩, And.right⟩

/-- **A pattern is rejected** for both reasons if nothing but blanks stands in it, and for one if
something else than signs does. -/
theorem read_eq_error_iff {issues : List Issue} :
    read pattern = .error issues ↔
      (pattern.filter (· ∉ Text.blanks) = [] ∧ issues = [.empty, .alphabet]) ∨
        ((∃ u ∈ pattern.filter (· ∉ Text.blanks), u ≠ unit '+' ∧ u ≠ unit '-') ∧
          issues = [.alphabet]) := by
  rw [← Text.removeBlanks_eq, ← mapM_outcome?_eq_none_iff]
  unfold read
  dsimp only
  split
  · next hempty =>
    rw [hempty]
    simp [eq_comm]
  · next hsigns =>
    cases pattern.removeBlanks.mapM outcome? <;> simp [hsigns, eq_comm]

/-- **Patterns decode what was written.** A pattern is accepted exactly if its units that are not
blank are signs, at least one, and the outcomes are those that these signs write; in other words, if
it is the writing of a list of outcomes with blanks put into it. When no unit is left without the
blanks, the pattern is rejected for being empty and for not being made of signs, and when another
unit than a sign is left, for the latter alone. -/
theorem read_decodes (pattern : Text) :
    let signs := pattern.filter (· ∉ Text.blanks)
    ((∃ outcomes, read pattern = .ok outcomes) ↔
      signs ≠ [] ∧ ∀ u ∈ signs, u = unit '+' ∨ u = unit '-') ∧
    (∀ outcomes, read pattern = .ok outcomes ↔ outcomes ≠ [] ∧ write outcomes = signs) ∧
    (∀ outcomes, read pattern = .ok outcomes ↔
      outcomes ≠ [] ∧ Spaced (write outcomes) pattern) ∧
    ∀ issues, read pattern = .error issues ↔
      (signs = [] ∧ issues = [.empty, .alphabet]) ∨
        ((∃ u ∈ signs, u ≠ unit '+' ∧ u ≠ unit '-') ∧ issues = [.alphabet]) := by
  intro signs
  refine ⟨?_, fun outcomes => read_eq_ok_iff, fun outcomes => ?_, fun issues => read_eq_error_iff⟩
  · rw [← exists_write_iff]
    constructor
    · rintro ⟨outcomes, hread⟩
      obtain ⟨hne, hwritten⟩ := read_eq_ok_iff.mp hread
      refine ⟨?_, outcomes, hwritten⟩
      show pattern.filter (· ∉ Text.blanks) ≠ []
      rwa [← hwritten, write, Ne, List.map_eq_nil_iff]
    · rintro ⟨hne, outcomes, hwritten⟩
      refine ⟨outcomes, read_eq_ok_iff.mpr ⟨?_, hwritten⟩⟩
      rintro rfl
      exact hne hwritten.symm
  · rw [read_eq_ok_iff, spaced_iff not_blank_of_mem_write, eq_comm (a := write outcomes)]

/-- Signs in groups, with a tabulator, an ideographic space and a line end between them. -/
example : read "++ \t-\u3000+\r\n" = .ok [.success, .success, .failure, .success] := by
  decide

end Outcome.Pattern

end Probing
