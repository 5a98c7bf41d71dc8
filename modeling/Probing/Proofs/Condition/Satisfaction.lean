import Mathlib.Data.List.DropRight
import Mathlib.Data.List.Induction
import Mathlib.Data.List.Infix
import Probing.Condition.Basic

/-!
# Satisfaction of a condition

What a condition says about a history of outcomes, without a tracker. A total is satisfied from the
outcome on that completes it; a sequence is satisfied at the outcome with which the run at the end
of the history reaches its length. A condition is met by a history when some outcome of it
satisfied it.

## Main definitions

* `trailing`: the run of counted outcomes at the end of a history
* `SatisfiedAt`, `MetBy`: what the last outcome and what the whole history says

## Main results

* `metBy_concat`: one more outcome
* `metBy_iff_exists_satisfiedAt`: a condition is met when some outcome satisfied it
-/

namespace Probing.Condition

/-- The length of the run of counted outcomes at the end of a history. -/
def trailing (condition : Condition) (history : List Outcome) : Nat :=
  (history.rtakeWhile (· = condition.counting)).length

/-- The last outcome of a history satisfies the condition. -/
def SatisfiedAt (condition : Condition) (expect : Nat) (history : List Outcome) : Prop :=
  match condition.location with
  | .cumulative => expect ≤ history.count condition.counting
  | .sequence => condition.trailing history = expect

/-- A history has as many counted outcomes as are expected, in a row if the condition is on
sequences. -/
def MetBy (condition : Condition) (expect : Nat) (history : List Outcome) : Prop :=
  match condition.location with
  | .cumulative => expect ≤ history.count condition.counting
  | .sequence => List.replicate expect condition.counting <:+: history

/-- The run that a tracker follows: none for a condition on totals. -/
def followedRun (condition : Condition) (history : List Outcome) : Nat :=
  match condition.location with
  | .cumulative => 0
  | .sequence => condition.trailing history

instance (condition : Condition) (expect : Nat) (history : List Outcome) :
    Decidable (condition.SatisfiedAt expect history) :=
  match h : condition.location with
  | .cumulative =>
    decidable_of_iff (expect ≤ history.count condition.counting) (by rw [SatisfiedAt, h])
  | .sequence =>
    decidable_of_iff (condition.trailing history = expect) (by rw [SatisfiedAt, h])

instance (condition : Condition) (expect : Nat) (history : List Outcome) :
    Decidable (condition.MetBy expect history) :=
  match h : condition.location with
  | .cumulative =>
    decidable_of_iff (expect ≤ history.count condition.counting) (by rw [MetBy, h])
  | .sequence =>
    decidable_of_iff (List.replicate expect condition.counting <:+: history) (by rw [MetBy, h])

variable {condition : Condition} {expect : Nat} {history : List Outcome} {outcome : Outcome}

/-! ## Runs at the end of a history -/

@[simp] theorem trailing_nil : condition.trailing [] = 0 := rfl

theorem trailing_concat_counted (h : outcome = condition.counting) :
    condition.trailing (history ++ [outcome]) = condition.trailing history + 1 := by
  rw [trailing, List.rtakeWhile_concat_pos _ _ _ (by simpa using h), List.length_append]
  rfl

theorem trailing_concat_other (h : outcome ≠ condition.counting) :
    condition.trailing (history ++ [outcome]) = 0 := by
  rw [trailing, List.rtakeWhile_concat_neg _ _ _ (by simpa using h)]
  rfl

/-- A history ends with a run of some length exactly if its last run is at least that long. -/
theorem replicate_suffix_iff (length : Nat) (history : List Outcome) :
    List.replicate length condition.counting <:+ history ↔ length ≤ condition.trailing history := by
  -- Induction from the end, where a suffix and the last run both grow.
  induction history using List.reverseRecOn generalizing length with
  | nil => simp
  | append_singleton history outcome ih =>
    cases length with
    | zero => simp
    | succ length =>
      rw [List.replicate_succ', List.suffix_concat_iff]
      by_cases hcounted : outcome = condition.counting
      · subst hcounted
        rw [trailing_concat_counted rfl, Nat.add_le_add_iff_right, ← ih length]
        simp
      · rw [trailing_concat_other hcounted]
        have hne : condition.counting ≠ outcome := fun h => hcounted h.symm
        simp [hne]

/-! ## Meeting a condition -/

theorem not_metBy_nil (hexpect : 0 < expect) : ¬ condition.MetBy expect [] := by
  unfold MetBy
  cases condition.location with
  | cumulative => simpa using Nat.ne_of_gt hexpect
  | sequence => simpa using Nat.ne_of_gt hexpect

/-- **One more outcome** meets a condition that was met before, or one that it satisfies. -/
theorem metBy_concat :
    condition.MetBy expect (history ++ [outcome]) ↔
      condition.MetBy expect history ∨ condition.SatisfiedAt expect (history ++ [outcome]) := by
  unfold MetBy SatisfiedAt
  cases condition.location with
  | cumulative =>
    simp only [List.count_append]
    omega
  | sequence =>
    simp only
    rw [List.infix_concat_iff, replicate_suffix_iff]
    -- A run that is too long contains a run that was long enough one outcome earlier.
    have hearlier : expect < condition.trailing (history ++ [outcome]) →
        List.replicate expect condition.counting <:+: history := by
      intro hlong
      by_cases hcounted : outcome = condition.counting
      · rw [trailing_concat_counted hcounted] at hlong
        exact ((replicate_suffix_iff _ _).mpr (Nat.le_of_lt_succ hlong)).isInfix
      · rw [trailing_concat_other hcounted] at hlong
        exact absurd hlong (Nat.not_lt_zero _)
    constructor
    · rintro (hlast | hearly)
      · rcases Nat.lt_or_eq_of_le hlast with hlong | hexact
        · exact .inl (hearlier hlong)
        · exact .inr hexact.symm
      · exact .inl hearly
    · rintro (hearly | hexact)
      · exact .inr hearly
      · exact .inl hexact.ge

theorem MetBy.append (h : condition.MetBy expect history) (later : List Outcome) :
    condition.MetBy expect (history ++ later) := by
  induction later using List.reverseRecOn with
  | nil => rwa [List.append_nil]
  | append_singleton later outcome ih =>
    rw [← List.append_assoc]
    exact metBy_concat.mpr (.inl ih)

/-- A condition stays met. -/
theorem MetBy.mono {k l : Nat} (h : condition.MetBy expect (history.take k)) (hkl : k ≤ l) :
    condition.MetBy expect (history.take l) := by
  have hsplit := List.take_append_drop k (history.take l)
  rw [List.take_take, Nat.min_eq_left hkl] at hsplit
  rw [← hsplit]
  exact h.append _

/-- **A condition is met** when some outcome satisfied it. -/
theorem metBy_iff_exists_satisfiedAt (hexpect : 0 < expect) :
    condition.MetBy expect history ↔
      ∃ k < history.length, condition.SatisfiedAt expect (history.take (k + 1)) := by
  induction history using List.reverseRecOn with
  | nil => simp [not_metBy_nil hexpect]
  | append_singleton history outcome ih =>
    rw [metBy_concat, ih]
    constructor
    · rintro (⟨k, hk, hsatisfied⟩ | hsatisfied)
      · refine ⟨k, by simp; omega, ?_⟩
        rwa [List.take_append_of_le_length hk]
      · refine ⟨history.length, by simp, ?_⟩
        rwa [List.take_of_length_le (by simp)]
    · rintro ⟨k, hk, hsatisfied⟩
      rcases Nat.lt_or_ge k history.length with hearly | hlast
      · rw [List.take_append_of_le_length hearly] at hsatisfied
        exact .inl ⟨k, hearly, hsatisfied⟩
      · rw [List.take_of_length_le (by simp; omega)] at hsatisfied
        exact .inr hsatisfied

/-- A condition is not met by the first outcomes of a history when none of them satisfied it. -/
theorem not_metBy_take_iff (hexpect : 0 < expect) {i : Nat} (hi : i ≤ history.length) :
    ¬ condition.MetBy expect (history.take i) ↔
      ∀ j < i, ¬ condition.SatisfiedAt expect (history.take (j + 1)) := by
  rw [metBy_iff_exists_satisfiedAt hexpect, List.length_take, Nat.min_eq_left hi]
  constructor
  · intro hnone j hj hsatisfied
    refine hnone ⟨j, hj, ?_⟩
    rwa [List.take_take, Nat.min_eq_left hj]
  · rintro hnone ⟨j, hj, hsatisfied⟩
    rw [List.take_take, Nat.min_eq_left hj] at hsatisfied
    exact hnone j hj hsatisfied

end Probing.Condition
