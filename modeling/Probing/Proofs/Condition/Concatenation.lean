import Probing.Proofs.Condition.Mirror

/-!
# Options one behind the other

Option texts combine by concatenation. No token reaches over the seam between two texts that are
read by themselves: the first ends where its last token ends, and no token starts with a unit that
could prolong the one before. The tokens of the whole are therefore those of the one text and then
those of the other, which ask for what either of them asks for, except that only the last map counts.

## Main definitions

* `ReportRequest.combine`: what two reports ask for together
* `Condition.SameTarget`: conditions that are met at the same time
* `Condition.Phrase.withOptions`: a phrase with other options

## Main results

* `Condition.readOptions_append`: reading goes on behind the tokens of the first text
* `Condition.requestOf_append`: what tokens ask for one behind the other
* `Condition.parse_withOptions`: an accepted text behind an accepted head is made of options
* `Condition.parse_append_options`: option texts combine by concatenation
-/

namespace Probing

/-! ## Reports together -/

/-- What two reports ask for together. The map of the second comes before that of the first. -/
def ReportRequest.combine (first second : ReportRequest) : ReportRequest where
  exitStatus := first.exitStatus || second.exitStatus
  showSuccesses := first.showSuccesses || second.showSuccesses
  showFailures := first.showFailures || second.showFailures
  showState := first.showState || second.showState
  silent := first.silent || second.silent
  map := second.map.or first.map

/-- The order of two reports makes a difference only if both have a map. -/
theorem ReportRequest.combine_comm {first second : ReportRequest}
    (h : first.map = none ∨ second.map = none) :
    second.combine first = first.combine second := by
  have hmap : first.map.or second.map = second.map.or first.map := by
    rcases h with h | h <;> simp [h]
  unfold combine
  rw [hmap]
  simp only [Bool.or_comm]

namespace Condition

/-- Two conditions that are met at the same time. -/
structure SameTarget (condition condition' : Condition) : Prop where
  expect_eq : condition.expect = condition'.expect
  counting_eq : condition.counting = condition'.counting
  location_eq : condition.location = condition'.location

variable {counting : Outcome} {defaultCapacity : Number}

/-! ## The seam -/

/-- **Reading goes on behind the tokens of the first text**, with the report they have led to, if
what follows does not open arguments for the last of them. -/
theorem readOptions_append {tokens : List Token} {rest : Text}
    (hrest : rest.head? ≠ some (unit '(')) :
    ∀ {report : ReportRequest} {position : Nat},
      readOptions counting defaultCapacity report position
          (tokens.flatMap Token.written ++ rest) =
        readOptions counting defaultCapacity
          (tokens.foldl (applyToken counting defaultCapacity) report)
          (position + (tokens.flatMap Token.written).length) rest := by
  induction tokens with
  | nil => intro report position; rfl
  | cons token tokens ih =>
    intro report position
    have hhead : (tokens.flatMap Token.written ++ rest).head? ≠ some (unit '(') := by
      cases tokens with
      | nil => exact hrest
      | cons next later =>
        rw [List.head?_append_of_ne_nil _ (by simp [next.written_ne_nil])]
        exact head_flatMap_written_ne (next :: later)
    rw [List.flatMap_cons, List.append_assoc, readOptions_step fun h => absurd h hhead, ih,
      List.foldl_cons, List.length_append, Nat.add_assoc]

/-- A colon is no option. -/
theorem readOptions_colon_ne_ok {report result : ReportRequest} {position : Nat} {rest : Text} :
    readOptions counting defaultCapacity report position (unit ':' :: rest) ≠ .ok result := by
  have hsign : signed? (unit ':') = none := by decide
  have hletter : Letter.ofUnit? (unit ':') = none := by decide
  simp [readOptions, readOption, readLetter, hsign, hletter]

/-- Behind a colon no further one starts among the options. -/
theorem flatMap_written_ne_append_colon (tokens tokens' : List Token) (rest : Text) :
    tokens.flatMap Token.written ≠ tokens'.flatMap Token.written ++ unit ':' :: rest := by
  intro h
  have hread : readOptions .success (.ofNat 0) {} 0 (tokens.flatMap Token.written) = .ok _ :=
    readOptions_eq_ok_iff.mpr ⟨tokens, rfl, rfl⟩
  have hcolon : (unit ':' :: rest).head? ≠ some (unit '(') := by
    rw [List.head?_cons]
    decide
  rw [h, readOptions_append hcolon] at hread
  exact readOptions_colon_ne_ok hread

/-! ## What tokens ask for together -/

/-- **What tokens ask for** one behind the other is what both ask for together. -/
theorem requestOf_append (tokens tokens' : List Token) :
    requestOf counting defaultCapacity (tokens ++ tokens') =
      (requestOf counting defaultCapacity tokens).combine
        (requestOf counting defaultCapacity tokens') := by
  simp [requestOf, ReportRequest.combine, List.getLast?_append]

/-- A map is asked for with its letter. -/
theorem mem_written_of_map_ne_none {tokens : List Token}
    (h : (requestOf counting defaultCapacity tokens).map ≠ none) :
    unit 'm' ∈ tokens.flatMap Token.written := by
  have hsome : tokens.filterMap (Token.mapRequest? defaultCapacity) ≠ [] := by
    rintro hnone
    exact h (by rw [requestOf, hnone]; rfl)
  obtain ⟨request, hrequest⟩ := List.exists_mem_of_ne_nil _ hsome
  obtain ⟨token, htoken, hmap⟩ := List.mem_filterMap.mp hrequest
  refine List.mem_flatMap.mpr ⟨token, htoken, ?_⟩
  cases token with
  | map arguments => cases arguments <;> exact List.mem_cons_self ..
  | _ => simp [Token.mapRequest?] at hmap

/-! ## Whole texts -/

/-- The phrase with other options. -/
def Phrase.withOptions (phrase : Phrase) (tokens : List Token) : Phrase :=
  { phrase with options := some tokens }

theorem Phrase.written_withOptions {phrase : Phrase} (h : phrase.options = none)
    (tokens : List Token) :
    (phrase.withOptions tokens).written =
      phrase.written ++ unit ':' :: tokens.flatMap Token.written := by
  rw [written_eq_front_append, written_eq_front_append phrase, h, Option.elim_none,
    List.append_nil]
  rfl

theorem Phrase.sameTarget_withOptions (phrase : Phrase) (tokens : List Token) :
    ((phrase.withOptions tokens).condition defaultCapacity).SameTarget
      (phrase.condition defaultCapacity) :=
  ⟨rfl, rfl, rfl⟩

/-- Options that ask for the same make the same condition. -/
theorem Phrase.condition_withOptions_congr {phrase : Phrase} {tokens tokens' : List Token}
    (h : requestOf phrase.counting defaultCapacity tokens' =
      requestOf phrase.counting defaultCapacity tokens) :
    (phrase.withOptions tokens').condition defaultCapacity =
      { (phrase.withOptions tokens).condition defaultCapacity with
        source := (phrase.withOptions tokens').written } := by
  show Condition.mk _ _ _ _ (requestOf phrase.counting defaultCapacity tokens') =
    Condition.mk _ _ _ _ (requestOf phrase.counting defaultCapacity tokens)
  rw [h]
  rfl

/-- **An accepted text behind an accepted head** and a colon is made of options, and the head has
none itself. -/
theorem parse_withOptions {phrase : Phrase} {options : Text} {condition : Condition}
    (h : parse defaultCapacity (phrase.written ++ unit ':' :: options) = .ok condition) :
    phrase.options = none ∧ ∃ tokens, options = tokens.flatMap Token.written ∧
      condition = (phrase.withOptions tokens).condition defaultCapacity := by
  obtain ⟨whole, hwhole, -⟩ := parse_sound h
  have hoptions := whole.optionsText_written
  have hfront := phrase.colon_not_mem_front
  rw [hwhole, phrase.written_eq_front_append] at hoptions
  cases hnone : phrase.options with
  | some tokens =>
    rw [hnone, Option.elim_some, List.append_assoc, List.cons_append,
      optionsText_append hfront] at hoptions
    exact absurd hoptions.symm (flatMap_written_ne_append_colon _ _ _)
  | none =>
    rw [hnone, Option.elim_none, List.append_nil, optionsText_append hfront] at hoptions
    refine ⟨rfl, whole.tokens, hoptions, ?_⟩
    rw [hoptions, ← Phrase.written_withOptions hnone, parse_written] at h
    exact (Except.ok.inj h).symm

theorem parse_append_written {phrase : Phrase} (h : phrase.options = none)
    (tokens tokens' : List Token) :
    parse defaultCapacity (phrase.written ++ unit ':' ::
        (tokens.flatMap Token.written ++ tokens'.flatMap Token.written)) =
      .ok ((phrase.withOptions (tokens ++ tokens')).condition defaultCapacity) := by
  rw [← List.flatMap_append, ← Phrase.written_withOptions h, parse_written]

/-- **Option texts combine by concatenation.** When two texts are accepted behind the same accepted
head, the first followed by the second is accepted, too. The condition is met at the same time as
that of the head, and its report asks for what the two ask for together. In the other order the
texts denote the same condition, unless both contain the letter of a map. -/
theorem parse_append_options {head first second : Text} {bare condition condition' : Condition}
    (hhead : parse defaultCapacity head = .ok bare)
    (hfirst : parse defaultCapacity (head ++ unit ':' :: first) = .ok condition)
    (hsecond : parse defaultCapacity (head ++ unit ':' :: second) = .ok condition') :
    (condition.SameTarget bare ∧ condition'.SameTarget bare) ∧
    ∃ both, parse defaultCapacity (head ++ unit ':' :: (first ++ second)) = .ok both ∧
      both.SameTarget bare ∧ both.report = condition.report.combine condition'.report ∧
      (¬ (unit 'm' ∈ first ∧ unit 'm' ∈ second) →
        parse defaultCapacity (head ++ unit ':' :: (second ++ first)) =
          .ok { both with source := head ++ unit ':' :: (second ++ first) }) := by
  obtain ⟨phrase, rfl, rfl⟩ := parse_sound hhead
  obtain ⟨hnone, tokens, rfl, rfl⟩ := parse_withOptions hfirst
  obtain ⟨-, tokens', rfl, rfl⟩ := parse_withOptions hsecond
  refine ⟨⟨phrase.sameTarget_withOptions _, phrase.sameTarget_withOptions _⟩, _,
    parse_append_written hnone tokens tokens', phrase.sameTarget_withOptions _,
    requestOf_append tokens tokens', fun honce => ?_⟩
  have hmaps : (requestOf phrase.counting defaultCapacity tokens).map = none ∨
      (requestOf phrase.counting defaultCapacity tokens').map = none := by
    by_contra hboth
    obtain ⟨hmap, hmap'⟩ := not_or.mp hboth
    exact honce ⟨mem_written_of_map_ne_none hmap, mem_written_of_map_ne_none hmap'⟩
  have hreport : requestOf phrase.counting defaultCapacity (tokens' ++ tokens) =
      requestOf phrase.counting defaultCapacity (tokens ++ tokens') := by
    rw [requestOf_append, requestOf_append, ReportRequest.combine_comm hmaps]
  rw [parse_append_written hnone, Phrase.condition_withOptions_congr hreport,
    Phrase.written_withOptions hnone, List.flatMap_append]

/-- A map in both texts, behind a head for three losses in a row: the later one counts, and the bare
count is that of the replies. -/
theorem parse_append_options_two_maps :
    ∃ condition condition' both : Condition,
      parse (.ofNat 100) "-3s" = .ok ⟨"-3s", .ofNat 3, .failure, .sequence, {}⟩ ∧
      parse (.ofNat 100) ("-3s" ++ unit ':' :: ("m(7)n" : Text)) = .ok condition ∧
      parse (.ofNat 100) ("-3s" ++ unit ':' :: ("xm(:^_)" : Text)) = .ok condition' ∧
      parse (.ofNat 100) ("-3s" ++ unit ':' :: ("m(7)n" ++ "xm(:^_)" : Text)) = .ok both ∧
      both.expect = .ofNat 3 ∧ both.report =
        { exitStatus := true, showSuccesses := true, map := some ⟨.ofNat 100, ⟨"^", "_"⟩⟩ } := by
  have hhead : parse (.ofNat 100) "-3s" = .ok ⟨"-3s", .ofNat 3, .failure, .sequence, {}⟩ := by
    decide +kernel
  have hfirst : parse (.ofNat 100) ("-3s" ++ unit ':' :: ("m(7)n" : Text)) =
      .ok ⟨"-3s:m(7)n", .ofNat 3, .failure, .sequence,
        { showSuccesses := true, map := some ⟨.ofNat 7, .standard⟩ }⟩ := by
    decide +kernel
  have hsecond : parse (.ofNat 100) ("-3s" ++ unit ':' :: ("xm(:^_)" : Text)) =
      .ok ⟨"-3s:xm(:^_)", .ofNat 3, .failure, .sequence,
        { exitStatus := true, map := some ⟨.ofNat 100, ⟨"^", "_"⟩⟩ }⟩ := by
    decide +kernel
  obtain ⟨-, both, hboth, htarget, hreport, -⟩ := parse_append_options hhead hfirst hsecond
  exact ⟨_, _, both, hhead, hfirst, hsecond, hboth, htarget.expect_eq, hreport⟩

end Condition

end Probing
