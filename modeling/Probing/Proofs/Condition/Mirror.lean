import Mathlib.Data.List.Count
import Probing.Proofs.Condition.Reading
import Probing.Proofs.Condition.Satisfaction

/-!
# Counting the other outcome

A minus sign in front of a condition makes it count lost probes, and a bare `n` show the replies. As
long as no option selects an outcome by itself, the condition with the sign says of a history with
all outcomes exchanged what the one without it says of the history.

## Main definitions

* `Condition.optionsText`: the options of a text
* `Condition.Token.IsBare`: the tokens that select no outcome by themselves
* `ReportRequest.mirror`, `Condition.mirror`: the same condition for the other outcome

## Main results

* `Condition.metBy_mirror`: exchanging the outcomes of a history
* `Condition.parse_negated`: what a minus sign in front of a text does
-/

namespace Probing

/-! ## Exchanging outcomes -/

namespace Outcome

@[simp] theorem opposite_opposite (outcome : Outcome) : outcome.opposite.opposite = outcome := by
  cases outcome <;> rfl

theorem opposite_ne (outcome : Outcome) : outcome.opposite ≠ outcome := by
  cases outcome <;> decide

theorem opposite_injective : Function.Injective opposite :=
  Function.LeftInverse.injective opposite_opposite

theorem map_opposite_map_opposite (history : List Outcome) :
    (history.map opposite).map opposite = history := by
  rw [List.map_map]
  exact List.map_id'' opposite_opposite history

theorem count_map_opposite (history : List Outcome) (outcome : Outcome) :
    (history.map opposite).count outcome = history.count outcome.opposite := by
  rw [← List.count_map_of_injective history opposite opposite_injective, opposite_opposite]

end Outcome

open Outcome

/-- The report with the two counts exchanged. -/
def ReportRequest.mirror (report : ReportRequest) : ReportRequest :=
  { report with showSuccesses := report.showFailures, showFailures := report.showSuccesses }

theorem ReportRequest.hasFields_mirror (report : ReportRequest) :
    report.mirror.hasFields = report.hasFields := by
  unfold hasFields mirror
  dsimp only
  rw [Bool.or_right_comm report.showState]

namespace Condition

/-- The condition with a minus sign in front of it. -/
def mirror (condition : Condition) : Condition where
  source := unit '-' :: condition.source
  expect := condition.expect
  counting := condition.counting.opposite
  location := condition.location
  report := condition.report.mirror

/-- **Exchanging the outcomes of a history** makes no difference to the condition for the other
outcome. -/
theorem metBy_mirror {condition : Condition} {expect : Nat} {history : List Outcome} :
    condition.mirror.MetBy expect (history.map opposite) ↔ condition.MetBy expect history := by
  have hcounting : condition.mirror.counting = condition.counting.opposite := rfl
  have hlocation : condition.mirror.location = condition.location := rfl
  unfold MetBy
  rw [hcounting, hlocation]
  cases condition.location with
  | cumulative => rw [count_map_opposite, opposite_opposite]
  | sequence =>
    dsimp only
    rw [← List.map_replicate]
    constructor
    · intro h
      have hback := h.map opposite
      rwa [map_opposite_map_opposite, map_opposite_map_opposite] at hback
    · exact fun h => h.map opposite

/-! ## The options of a text -/

/-- The options of a text: what stands behind the first colon. -/
def optionsText (text : Text) : Text :=
  (text.dropWhile (· ≠ unit ':')).drop 1

theorem optionsText_append {front : Text} (h : unit ':' ∉ front) (rest : Text) :
    optionsText (front ++ unit ':' :: rest) = rest := by
  have hfront : ∀ u ∈ front, decide (u ≠ unit ':') = true := fun u hu =>
    decide_eq_true fun hcolon => h (hcolon ▸ hu)
  rw [optionsText, List.dropWhile_append_of_pos hfront]
  simp

theorem optionsText_eq_nil {text : Text} (h : unit ':' ∉ text) : optionsText text = [] := by
  have hall : ∀ u ∈ text, decide (u ≠ unit ':') = true := fun u hu =>
    decide_eq_true fun hcolon => h (hcolon ▸ hu)
  rw [optionsText, List.dropWhile_eq_nil_iff.mpr hall, List.drop_nil]

namespace Phrase

/-- The text of a phrase in front of its options. -/
def front (phrase : Phrase) : Text :=
  (if phrase.negative then [unit '-'] else []) ++ phrase.count.digits ++
    if phrase.consecutive then [unit 's'] else []

theorem written_eq_front_append (phrase : Phrase) :
    phrase.written = phrase.front ++
      phrase.options.elim [] fun tokens => unit ':' :: tokens.flatMap Token.written :=
  (List.append_assoc ..).symm

/-- No colon stands in front of the options of a phrase. -/
theorem colon_not_mem_front (phrase : Phrase) : unit ':' ∉ phrase.front := by
  intro hu
  rcases List.mem_append.mp hu with hcount | hflag
  · rcases List.mem_append.mp hcount with hsign | hdigit
    · split at hsign
      · exact absurd hsign (by decide)
      · cases hsign
    · exact absurd (phrase.count.all_digits _ hdigit) (by decide)
  · split at hflag
    · exact absurd hflag (by decide)
    · cases hflag

theorem optionsText_written (phrase : Phrase) :
    optionsText phrase.written = phrase.tokens.flatMap Token.written := by
  have hfront := phrase.colon_not_mem_front
  rw [written_eq_front_append, tokens]
  cases phrase.options with
  | none =>
    rw [Option.elim_none, List.append_nil]
    exact optionsText_eq_nil hfront
  | some tokens => exact optionsText_append hfront _

end Phrase

/-! ## Options that select no outcome -/

/-- A token that selects no outcome by itself, and no map. -/
def Token.IsBare (token : Token) : Prop :=
  token = .exitStatus ∨ token = .silent ∨ token = .state ∨ token = .count none

/-- The letters of bare tokens are those of no other token. -/
theorem Token.isBare_of_written {token : Token}
    (h : ∀ u ∈ token.written, u ∈ ("xqcn" : Text)) : token.IsBare := by
  cases token with
  | exitStatus => exact .inl rfl
  | silent => exact .inr (.inl rfl)
  | state => exact .inr (.inr (.inl rfl))
  | bothCounts => exact absurd (h (unit 'N') (List.mem_cons_self ..)) (by decide)
  | count sign =>
    cases sign with
    | none => exact .inr (.inr (.inr rfl))
    | some shown =>
      have hsign := h (signOf shown) (List.mem_cons_self ..)
      cases shown <;> exact absurd hsign (by decide)
  | map arguments =>
    cases arguments <;> exact absurd (h (unit 'm') (List.mem_cons_self ..)) (by decide)

namespace Token.IsBare

variable {token : Token} {counting shown : Outcome} {defaultCapacity : Number}

/-- What a bare token shows is exchanged with the counted outcome. -/
theorem shows_opposite (h : token.IsBare) :
    token.shows counting.opposite shown = token.shows counting shown.opposite := by
  rcases h with rfl | rfl | rfl | rfl
  · rfl
  · rfl
  · rfl
  · cases counting <;> cases shown <;> rfl

/-- A bare token does not show the counted outcome. -/
theorem shows_counting (h : token.IsBare) : token.shows counting counting = false := by
  rcases h with rfl | rfl | rfl | rfl
  · rfl
  · rfl
  · rfl
  · exact decide_eq_false (opposite_ne counting)

theorem mapRequest?_eq_none (h : token.IsBare) : token.mapRequest? defaultCapacity = none := by
  rcases h with rfl | rfl | rfl | rfl <;> rfl

theorem eq_exitStatus (h : token.IsBare) (hx : unit 'x' ∈ token.written) :
    token = .exitStatus := by
  rcases h with rfl | rfl | rfl | rfl
  · rfl
  all_goals exact absurd hx (by decide)

end Token.IsBare

section Bare

variable {tokens : List Token} {counting : Outcome} {defaultCapacity : Number}

/-- Bare tokens ask for the other count when the other outcome is counted. -/
theorem requestOf_opposite (h : ∀ token ∈ tokens, token.IsBare) :
    requestOf counting.opposite defaultCapacity tokens =
      (requestOf counting defaultCapacity tokens).mirror := by
  have hshows (shown : Outcome) : tokens.any (Token.shows counting.opposite shown) =
      tokens.any (Token.shows counting shown.opposite) := by
    rw [Bool.eq_iff_iff, List.any_eq_true, List.any_eq_true]
    refine exists_congr fun token => and_congr_right fun htoken => ?_
    rw [(h token htoken).shows_opposite]
  unfold requestOf ReportRequest.mirror
  rw [hshows, hshows]
  rfl

/-- Bare tokens show at most the count of the outcome that is not counted, and no map. -/
theorem requestOf_of_isBare (h : ∀ token ∈ tokens, token.IsBare) :
    (counting = .success → (requestOf counting defaultCapacity tokens).showSuccesses = false) ∧
      (requestOf counting defaultCapacity tokens).map = none := by
  constructor
  · rintro rfl
    exact List.any_eq_false.mpr fun token htoken =>
      Bool.eq_false_iff.mp (h token htoken).shows_counting
  · have hnone : tokens.filterMap (Token.mapRequest? defaultCapacity) = [] :=
      List.filterMap_eq_nil_iff.mpr fun token htoken => (h token htoken).mapRequest?_eq_none
    show (tokens.filterMap (Token.mapRequest? defaultCapacity)).getLast? = none
    rw [hnone]
    rfl

end Bare

/-! ## Texts with a minus sign -/

variable {defaultCapacity : Number}

/-- The phrase with a minus sign in front of it. -/
def Phrase.negated (phrase : Phrase) : Phrase :=
  { phrase with negative := true }

theorem Phrase.written_negated {phrase : Phrase} (h : phrase.negative = false) :
    phrase.negated.written = unit '-' :: phrase.written := by
  unfold written negated
  rw [h]
  rfl

theorem Phrase.condition_negated {phrase : Phrase} (h : phrase.negative = false)
    (hbare : ∀ token ∈ phrase.tokens, token.IsBare) :
    phrase.negated.condition defaultCapacity = (phrase.condition defaultCapacity).mirror := by
  have hcounting : phrase.negated.counting = phrase.counting.opposite := by
    unfold counting negated
    rw [h]
    rfl
  have hreport : requestOf phrase.counting.opposite defaultCapacity phrase.tokens =
      (requestOf phrase.counting defaultCapacity phrase.tokens).mirror :=
    requestOf_opposite hbare
  unfold condition mirror
  dsimp only
  rw [written_negated h, hcounting, ← hreport]
  rfl

section Negated

variable {text : Text} {condition : Condition}
  (h : parse defaultCapacity text = .ok condition) (hsign : text.head? ≠ some (unit '-'))
  (hoptions : ∀ u ∈ optionsText text, u ∈ ("xqcn" : Text))

include h hsign hoptions

/-- A text without a sign and with bare options is that of such a phrase. -/
theorem exists_bare_phrase :
    ∃ phrase : Phrase, phrase.written = text ∧ phrase.condition defaultCapacity = condition ∧
      phrase.negative = false ∧ ∀ token ∈ phrase.tokens, token.IsBare := by
  obtain ⟨phrase, rfl, rfl⟩ := parse_sound h
  refine ⟨phrase, rfl, rfl, ?_, fun token htoken => Token.isBare_of_written fun u hu => ?_⟩
  · rw [← Bool.not_eq_true]
    intro hnegative
    refine hsign ?_
    rw [Phrase.written, if_pos hnegative]
    rfl
  · refine hoptions u ?_
    rw [phrase.optionsText_written]
    exact List.mem_flatMap_of_mem htoken hu

/-- **A minus sign in front of a text** makes it the condition for the other outcome, if its options
are bare. -/
theorem parse_negated : parse defaultCapacity (unit '-' :: text) = .ok condition.mirror := by
  obtain ⟨phrase, rfl, rfl, hpositive, hbare⟩ := exists_bare_phrase h hsign hoptions
  rw [← Phrase.written_negated hpositive, ← Phrase.condition_negated hpositive hbare]
  exact parse_written phrase.negated

/-- What a text without a sign and with bare options can ask for. -/
theorem report_of_bare_options :
    condition.report.showSuccesses = false ∧ condition.report.map = none ∧
      (unit 'x' ∈ optionsText text → condition.report.exitStatus = true) := by
  obtain ⟨phrase, rfl, rfl, hpositive, hbare⟩ := exists_bare_phrase h hsign hoptions
  have hcounting : phrase.counting = .success := by
    rw [Phrase.counting, hpositive]
    rfl
  obtain ⟨hsuccesses, hmap⟩ := requestOf_of_isBare hbare
  refine ⟨hsuccesses hcounting, hmap, fun hx => ?_⟩
  rw [phrase.optionsText_written] at hx
  obtain ⟨token, htoken, hx⟩ := List.mem_flatMap.mp hx
  obtain rfl := (hbare token htoken).eq_exitStatus hx
  exact decide_eq_true htoken

end Negated

end Condition

end Probing
