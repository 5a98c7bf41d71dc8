import Probing.Command.Run
import Probing.Proofs.Condition.Reading
import Probing.Proofs.OutcomeMap.Source
import Probing.Proofs.Settings.Loading
import Probing.Proofs.Tracker.Update

/-!
# What a run starts from

A condition that was read with loaded settings waits for a positive number of outcomes and asks for
a map of a positive capacity, if for any. A tracker can therefore always be made, and its map asks
the usual source of slots.

## Main definitions

* `Condition.Realizable`: a condition that a tracker can be made for

## Main results

* `Condition.parse_realizable`: a condition that was read can be realized
* `Command.create_eq_ok`: a tracker can be made for it
-/

namespace Probing

/-! ## Conditions -/

namespace Condition

/-- A condition that a tracker can be made for. -/
structure Realizable (condition : Condition) (expect : Nat) : Prop where
  expect_eq : condition.expect = .ofNat expect
  expect_pos : 0 < expect
  capacity : ∀ request, condition.report.map = some request →
    ∃ n, request.maxCapacity.positiveInteger? = some n

/-- Every map is asked for by a token of the text. -/
theorem exists_token_of_parse {defaultCapacity : Number} {text : Text} {condition : Condition}
    (h : parse defaultCapacity text = .ok condition) {request : MapRequest}
    (hmap : condition.report.map = some request) :
    ∃ (phrase : Phrase) (token : Token), phrase.written = text ∧ token ∈ phrase.tokens ∧
      token.mapRequest? defaultCapacity = some request := by
  obtain ⟨phrase, hwritten, rfl⟩ := parse_sound h
  have hlast : request ∈ phrase.tokens.filterMap (Token.mapRequest? defaultCapacity) :=
    List.mem_of_getLast? hmap
  obtain ⟨token, hmem, htoken⟩ := List.mem_filterMap.mp hlast
  exact ⟨phrase, token, hwritten, hmem, htoken⟩

/-- The capacity of a map is the one that its token was written with, or the standard one. -/
theorem Token.mapRequest?_capacity {defaultCapacity : Number} {token : Token}
    {request : MapRequest} (hdefault : ∃ n, defaultCapacity.positiveInteger? = some n)
    (h : token.mapRequest? defaultCapacity = some request) :
    ∃ n, request.maxCapacity.positiveInteger? = some n := by
  match token, h with
  | .map none, h =>
    obtain rfl := Option.some.inj h
    exact hdefault
  | .map (some ⟨none, glyphs, nonempty⟩), h =>
    obtain rfl := Option.some.inj h
    exact hdefault
  | .map (some ⟨some size, glyphs, nonempty⟩), h =>
    obtain rfl := Option.some.inj h
    exact ⟨size.value, Number.positiveInteger?_eq_some_iff.mpr
      ⟨rfl, size.value_pos, size.value_le⟩⟩

/-- **A condition that was read can be realized**, if the standard capacity can. -/
theorem parse_realizable {defaultCapacity : Number} {text : Text} {condition : Condition}
    (hdefault : ∃ n, defaultCapacity.positiveInteger? = some n)
    (h : parse defaultCapacity text = .ok condition) :
    ∃ expect, condition.Realizable expect := by
  have hcapacity : ∀ request, condition.report.map = some request →
      ∃ n, request.maxCapacity.positiveInteger? = some n := by
    intro request hrequest
    obtain ⟨-, token, -, -, htoken⟩ := exists_token_of_parse h hrequest
    exact token.mapRequest?_capacity hdefault htoken
  obtain ⟨phrase, -, rfl⟩ := parse_sound h
  exact ⟨phrase.count.value, rfl, phrase.count.value_pos, hcapacity⟩

end Condition

/-! ## Trackers -/

namespace Command

theorem blt_one_of_isSize {size : Number} (h : Settings.IsSize size) :
    size.blt (.ofNat 1) = false := by
  obtain ⟨n, hpos, -, rfl⟩ := h
  rw [Number.blt_ofNat]
  exact decide_eq_false (Nat.not_lt.mpr hpos)

/-- **A tracker can be made** for a realizable condition, and its source of slots never fails. -/
theorem create_eq_ok {settings : Settings} (hsized : settings.Sized) {condition : Condition}
    {expect : Nat} (h : condition.Realizable expect) :
    ∃ tracker, Tracker.create condition (storageOf settings) = .ok tracker ∧ tracker.Steady := by
  unfold Tracker.create
  cases hmap : condition.report.map with
  | none =>
    refine ⟨_, rfl, ?_⟩
    intro map hsome
    cases hsome
  | some request =>
    obtain ⟨n, hcapacity⟩ := h.capacity request hmap
    have hceiling : (storageOf settings).initialCeiling.blt (.ofNat 1) = false :=
      blt_one_of_isSize hsized.initialCeiling
    have hstep : (storageOf settings).growthStep.blt (.ofNat 1) = false :=
      blt_one_of_isSize hsized.growthStep
    simp only [OutcomeMap.create, hcapacity, hceiling, hstep]
    refine ⟨_, rfl, ?_⟩
    intro map hsome
    obtain rfl := Option.some.inj hsome
    exact Allocator.standard_steady

end Command

end Probing
