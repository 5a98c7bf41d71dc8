import Probing.Proofs.OutcomeMap.Arrangement
import Probing.Proofs.Text.WellFormed

/-!
# Glyphs that are characters, and glyphs that are halves

Two units of a text that stand between whole units are two characters, or the halves of a single
one. As glyphs of an outcome map, whole characters can be shown in any order. Halves come together
only where a success is directly followed by a failure, so that what a map shows is well-formed if
its outcomes take turns, a success first and a failure last.

## Main definitions

* `Glyphs.AreWhole`, `Glyphs.AreHalves`: the two kinds of glyph pairs
* `Outcome.paired`: successes and failures in turns

## Main results

* `Glyphs.wellFormed_flatten_iff`: when the glyphs of outcomes are well-formed
* `OutcomeMap.window_wellFormed_iff`, `OutcomeMap.slotsView_wellFormed_iff`: when the views of a map
  are
-/

namespace Probing

open Text

/-- Each glyph is one character. -/
def Glyphs.AreWhole (glyphs : Glyphs) : Prop :=
  glyphs.success.IsCharacter ∧ glyphs.failure.IsCharacter

/-- The glyphs are the halves of one character. -/
def Glyphs.AreHalves (glyphs : Glyphs) : Prop :=
  ∃ high low : CodeUnit, glyphs = ⟨[high], [low]⟩ ∧ high.isHighSurrogate = true ∧
    low.isLowSurrogate = true

/-- Successes and failures in turns, a success first and a failure last. -/
def Outcome.paired : List Outcome → Bool
  | [] => true
  | .success :: .failure :: rest => paired rest
  | _ => false

namespace Glyphs

variable {glyphs : Glyphs}

/-- Two units that are well-formed together are two characters or the halves of one. -/
theorem areWhole_or_areHalves {success failure : CodeUnit}
    (h : WellFormed [success, failure]) :
    AreWhole ⟨[success], [failure]⟩ ∨ AreHalves ⟨[success], [failure]⟩ := by
  rcases wellFormed_two_iff.mp h with ⟨hsuccess, hfailure⟩ | ⟨hhigh, hlow⟩
  · exact .inl ⟨.single hsuccess, .single hfailure⟩
  · exact .inr ⟨success, failure, rfl, hhigh, hlow⟩

theorem standard_areWhole : AreWhole standard :=
  ⟨.single (by decide), .single (by decide)⟩

theorem AreHalves.not_areWhole (h : glyphs.AreHalves) : ¬ glyphs.AreWhole := by
  obtain ⟨high, low, rfl, hhigh, -⟩ := h
  rintro ⟨hsuccess, -⟩
  have hwhole := isCharacter_singleton_iff.mp hsuccess
  exact Bool.noConfusion ((CodeUnit.isWhole_iff.mp hwhole).1.symm.trans hhigh)

theorem AreWhole.wellFormed (h : glyphs.AreWhole) (outcomes : List Outcome) :
    WellFormed (outcomes.map glyphs.ofOutcome).flatten := by
  induction outcomes with
  | nil => exact .nil
  | cons outcome outcomes ih =>
    rw [List.map_cons, List.flatten_cons]
    cases outcome with
    | success => exact h.1.append ih
    | failure => exact h.2.append ih

/-- Halves come together where a success is directly followed by a failure. -/
theorem AreHalves.wellFormed_iff (h : glyphs.AreHalves) (outcomes : List Outcome) :
    WellFormed (outcomes.map glyphs.ofOutcome).flatten ↔ Outcome.paired outcomes = true := by
  obtain ⟨high, low, rfl, hhigh, hlow⟩ := h
  fun_induction Outcome.paired outcomes with
  | case1 => exact iff_of_true .nil rfl
  | case2 rest ih => exact (wellFormed_pair_iff hhigh hlow).trans ih
  | case3 outcomes hne hunpaired =>
    refine iff_of_false (fun hcells => ?_) Bool.false_ne_true
    match outcomes with
    | [] => exact hne rfl
    | .failure :: _ => exact not_wellFormed_low hlow hcells
    | [.success] =>
      obtain ⟨_, _, hnext, -⟩ := hcells.exists_low hhigh
      cases hnext
    | .success :: .failure :: rest => exact hunpaired rest rfl
    | .success :: .success :: _ =>
      obtain ⟨_, _, hnext, hnext_low⟩ := hcells.exists_low hhigh
      obtain ⟨rfl, -⟩ := List.cons.inj hnext
      exact CodeUnit.not_high_and_low hhigh hnext_low

/-- **When the glyphs of outcomes are well-formed**: always if they are whole, and if they are
halves exactly when the outcomes take turns. -/
theorem wellFormed_flatten_iff (h : glyphs.AreWhole ∨ glyphs.AreHalves)
    (outcomes : List Outcome) :
    WellFormed (outcomes.map glyphs.ofOutcome).flatten ↔
      glyphs.AreWhole ∨ Outcome.paired outcomes = true := by
  rcases h with hwhole | hhalves
  · exact iff_of_true (hwhole.wellFormed outcomes) (.inl hwhole)
  · rw [hhalves.wellFormed_iff outcomes]
    exact (or_iff_right hhalves.not_areWhole).symm

end Glyphs

namespace OutcomeMap

variable {glyphs : Glyphs}

theorem window_wellFormed_iff (h : glyphs.AreWhole ∨ glyphs.AreHalves) (bound : Nat)
    (kept : List Outcome) :
    WellFormed (window glyphs bound kept) ↔
      glyphs.AreWhole ∨ Outcome.paired (kept.rtake bound) = true := by
  rw [window_eq, Glyphs.wellFormed_flatten_iff h]

/-- Spaces, line feed and caret are whole, so that only the glyphs matter. -/
theorem slotsView_wellFormed_iff (h : glyphs.AreWhole ∨ glyphs.AreHalves) (stored : List Outcome)
    (missing position : Nat) :
    WellFormed (slotsView glyphs stored missing position) ↔
      glyphs.AreWhole ∨ Outcome.paired stored = true := by
  have hspaces (n : Nat) : ∀ u ∈ List.replicate n (unit ' '), CodeUnit.isWhole u = true := by
    intro u hu
    rw [List.eq_of_mem_replicate hu]
    decide
  have hend : ∀ u ∈ List.replicate missing (unit ' ') ++
      (unit '\n' :: List.replicate position (unit ' ') ++ [unit '^']),
        CodeUnit.isWhole u = true := by
    simp only [List.forall_mem_append, List.forall_mem_cons]
    exact ⟨hspaces missing, ⟨by decide, hspaces position⟩, by decide, by simp⟩
  rw [slotsView, List.append_assoc, List.append_assoc, wellFormed_append_iff_of_forall hend,
    Glyphs.wellFormed_flatten_iff h]

end OutcomeMap

end Probing
