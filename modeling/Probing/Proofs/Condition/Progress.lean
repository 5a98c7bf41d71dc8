import Probing.Proofs.Condition.Reading

/-!
# Reading a condition turn by turn

A condition can be read by one loop over the positions of its text: each turn looks at the unit at
the position and takes the sign, a digit, the location flag, the colon or a whole option. The count
ends without a unit of its own, so that the turn that finds its end takes what stands there. A turn
that goes on leaves the position further on and inside the text or just behind it, and no turn
changes what the readers make of the text. The loop therefore ends within as many turns as the text
has units, with their answer.

An option is read from its own units: the text in front of it is not looked at, and of what stands
behind it only whether it is an opening parenthesis.

## Main definitions

* `Phase`, `Draft`, `Scan`: a reading under way
* `optionAt`: the option at a position of a text
* `Scan.turn`, `Scan.within`, `parseWithin`: one turn of the loop, and the loop
* `Scan.answer`: what the readers make of the text from a reading on

## Main results

* `optionAt_inside`, `optionAt_of_same_units`: an option ends inside the text and is read from its
  own units
* `Scan.turn_advances`: a turn that goes on moves the position, and not out of the text
* `Scan.answer_eq_turn`: no turn changes the answer
* `Scan.within_eq_answer`: the loop ends with the answer
* `parse_advances`: options and turns advance inside the text, so that the loop ends in time
-/

namespace Probing.Condition

/-! ## Turns -/

/-- The part of a text that a reading is in. -/
inductive Phase where
  /-- The sign and the digits. -/
  | count
  /-- The location flag and the colon. -/
  | location
  | options
deriving DecidableEq, Repr

/-- What has been read of a condition. -/
structure Draft where
  expect : Nat := 0
  counting : Outcome := .success
  location : Location := .cumulative
  report : ReportRequest := {}
deriving DecidableEq

/-- The draft with one more option. -/
def Draft.withOption (draft : Draft) (option : ReportOption) : Draft :=
  { draft with report := option.apply draft.report }

/-- The condition of a text that has been read to its end. Only now the count is looked at. -/
def Draft.complete (text : Text) (draft : Draft) : Except Stop Condition :=
  if draft.expect = 0 then .error ⟨0, .zeroCount⟩
  else .ok ⟨text, draft.expect, draft.counting, draft.location, draft.report⟩

/-- The option at a position of a text: the position of its last unit, and the draft with it. -/
def optionAt (defaultCapacity : Number) (text : Text) (position : Nat) (draft : Draft) :
    Except Stop (Nat × Draft) :=
  match readOption draft.counting defaultCapacity (text.drop position) with
  | .error stop => .error (stop.shift position)
  | .ok run => .ok (position + run.last, draft.withOption run.option)

/-- A reading under way. -/
structure Scan where
  phase : Phase := .count
  position : Nat := 0
  draft : Draft := {}
deriving DecidableEq

namespace Scan

/-- The location flag or the colon. -/
def locationTurn (scan : Scan) (u : CodeUnit) : Except Stop Scan :=
  if u = unit ':' then .ok ⟨.options, scan.position + 1, scan.draft⟩
  else if u = unit 's' then
    match scan.draft.location with
    | .sequence => .error ⟨scan.position, .repeatedLocation⟩
    | .cumulative =>
      .ok ⟨.location, scan.position + 1, { scan.draft with location := .sequence }⟩
  else .error ⟨scan.position, .expectedColon u⟩

/-- The sign, a digit or, behind them, what follows the count. -/
def countTurn (scan : Scan) (u : CodeUnit) : Except Stop Scan :=
  if scan.position = 0 ∧ u = unit '-' then
    .ok ⟨.count, scan.position + 1, { scan.draft with counting := .failure }⟩
  else
    match digit? u with
    | some d =>
      if scan.draft.expect * 10 + d ≤ Number.maxCount then
        .ok ⟨.count, scan.position + 1, { scan.draft with expect := scan.draft.expect * 10 + d }⟩
      else .error ⟨scan.position, .countTooLarge⟩
    | none =>
      if scan.position = 0 then .error ⟨0, .unexpectedStart u⟩ else scan.locationTurn u

/-- One turn of the loop, on the unit at the position. -/
def turn (defaultCapacity : Number) (text : Text) (scan : Scan) (u : CodeUnit) :
    Except Stop Scan :=
  match scan.phase with
  | .count => scan.countTurn u
  | .location => scan.locationTurn u
  | .options =>
    match optionAt defaultCapacity text scan.position scan.draft with
    | .error stop => .error stop
    | .ok (last, draft) => .ok ⟨.options, last + 1, draft⟩

/-- The result of the loop, if it ends within so many turns. -/
def within (defaultCapacity : Number) (text : Text) (turns : Nat) (scan : Scan) :
    Option (Except Stop Condition) :=
  match text[scan.position]? with
  | none => some (scan.draft.complete text)
  | some u =>
    match turns with
    | 0 => none
    | turns + 1 =>
      match scan.turn defaultCapacity text u with
      | .error stop => some (.error stop)
      | .ok next => next.within defaultCapacity text turns

end Scan

/-- The condition a text denotes, if the loop over the text ends within so many turns. -/
def parseWithin (defaultCapacity : Number) (text : Text) (turns : Nat) :
    Option (Except Defect Condition) :=
  (Scan.within defaultCapacity text turns {}).map
    (Except.mapError fun stop => ⟨text, stop.offset, stop.reason⟩)

variable {defaultCapacity : Number} {text : Text}

/-! ## Options at a position -/

theorem optionAt_eq_ok_iff {position last : Nat} {draft next : Draft} :
    optionAt defaultCapacity text position draft = .ok (last, next) ↔
      ∃ (token : Token) (rest : Text), text.drop position = token.written ++ rest ∧
        token.CanPrecede rest ∧ last + 1 = position + token.written.length ∧
        next = draft.withOption (token.option draft.counting defaultCapacity) := by
  rw [optionAt]
  constructor
  · intro h
    cases hread : readOption draft.counting defaultCapacity (text.drop position) with
    | error stop => simp [hread] at h
    | ok run =>
      obtain ⟨token, rest, htext, hrest, rfl⟩ := readOption_eq_ok_iff.mp hread
      simp only [hread, Except.ok.injEq, Prod.mk.injEq] at h
      obtain ⟨rfl, rfl⟩ := h
      have hpos := token.length_written_pos
      exact ⟨token, rest, htext, hrest, by omega, rfl⟩
  · rintro ⟨token, rest, htext, hrest, hend, rfl⟩
    rw [readOption_eq_ok_iff.mpr ⟨token, rest, htext, hrest, rfl⟩]
    have hpos := token.length_written_pos
    simp only [Except.ok.injEq, Prod.mk.injEq, and_true]
    omega

/-- **An option ends inside the text**, not before it begins. -/
theorem optionAt_inside {position last : Nat} {draft next : Draft}
    (h : optionAt defaultCapacity text position draft = .ok (last, next)) :
    position ≤ last ∧ last < text.length := by
  obtain ⟨token, rest, htext, -, hend, -⟩ := optionAt_eq_ok_iff.mp h
  have hpos := token.length_written_pos
  have hlength := congrArg List.length htext
  rw [List.length_drop, List.length_append] at hlength
  omega

/-- A part of a text stands in the same place of any text with the same units there. -/
theorem drop_eq_append_of_same_units {text' part rest : Text} {position : Nat}
    (htext : text.drop position = part ++ rest)
    (hsame : ∀ i, position ≤ i → i < position + part.length → text'[i]? = text[i]?) :
    text'.drop position = part ++ text'.drop (position + part.length) := by
  have htake : (text'.drop position).take part.length = part := by
    refine List.ext_getElem? fun i => ?_
    rw [List.getElem?_take]
    split
    · next hi =>
      rw [List.getElem?_drop, hsame _ (Nat.le_add_right ..) (Nat.add_lt_add_left hi _),
        ← List.getElem?_drop, htext, List.getElem?_append_left hi]
    · next hi => rw [List.getElem?_eq_none (Nat.le_of_not_lt hi)]
  calc text'.drop position
      = (text'.drop position).take part.length ++ (text'.drop position).drop part.length :=
        (List.take_append_drop ..).symm
    _ = part ++ text'.drop (position + part.length) := by rw [htake, List.drop_drop]

/-- **An option is read from its own units.** A text with the same units in its place, and with an
opening parenthesis behind it or not just as well, has the same option there. -/
theorem optionAt_of_same_units {text' : Text} {position last : Nat} {draft next : Draft}
    (h : optionAt defaultCapacity text position draft = .ok (last, next))
    (hsame : ∀ i, position ≤ i → i ≤ last → text'[i]? = text[i]?)
    (hbehind : text'[last + 1]? = some (unit '(') ↔ text[last + 1]? = some (unit '(')) :
    optionAt defaultCapacity text' position draft = .ok (last, next) := by
  obtain ⟨token, rest, htext, hrest, hend, rfl⟩ := optionAt_eq_ok_iff.mp h
  have htext' := drop_eq_append_of_same_units htext fun i hfirst hlast =>
    hsame i hfirst (by omega)
  rw [← hend] at htext'
  refine optionAt_eq_ok_iff.mpr ⟨token, _, htext', fun hhead => hrest ?_, hend, rfl⟩
  have hbehindText : text.drop (last + 1) = rest := by
    rw [hend, ← List.drop_drop, htext, List.drop_left]
  rw [List.head?_drop, hbehind, ← List.head?_drop, hbehindText] at hhead
  exact hhead

/-! ## Turns advance -/

namespace Scan

variable {scan next : Scan} {u : CodeUnit}

theorem position_of_locationTurn (h : scan.locationTurn u = .ok next) :
    next.position = scan.position + 1 := by
  unfold locationTurn at h
  split at h
  · cases h
    rfl
  · split at h
    · split at h <;> cases h
      rfl
    · cases h

theorem position_of_countTurn (h : scan.countTurn u = .ok next) :
    next.position = scan.position + 1 := by
  unfold countTurn at h
  split at h
  · cases h
    rfl
  · split at h
    · split at h <;> cases h
      rfl
    · split at h
      · cases h
      · exact position_of_locationTurn h

/-- **A turn that goes on moves the position**, and not out of the text. -/
theorem turn_advances (hu : text[scan.position]? = some u)
    (h : scan.turn defaultCapacity text u = .ok next) :
    scan.position < next.position ∧ next.position ≤ text.length := by
  have hinside : scan.position < text.length := (List.getElem?_eq_some_iff.mp hu).1
  unfold turn at h
  split at h
  · rw [position_of_countTurn h]
    exact ⟨Nat.lt_succ_self _, hinside⟩
  · rw [position_of_locationTurn h]
    exact ⟨Nat.lt_succ_self _, hinside⟩
  · cases hoption : optionAt defaultCapacity text scan.position scan.draft with
    | error stop => simp [hoption] at h
    | ok found =>
      have hlast := optionAt_inside hoption
      simp only [hoption, Except.ok.injEq] at h
      obtain rfl := h
      exact ⟨Nat.lt_succ_of_le hlast.1, hlast.2⟩

end Scan

/-! ## What the readers make of the rest -/

/-- What the readers make of the options of a text and its end. -/
def optionsFrom (defaultCapacity : Number) (text : Text) (draft : Draft) (position : Nat)
    (rest : Text) : Except Stop Condition :=
  match readOptions draft.counting defaultCapacity draft.report position rest with
  | .error stop => .error stop
  | .ok report => ({ draft with report } : Draft).complete text

/-- What the readers make of a text from the location on. -/
def locationFrom (defaultCapacity : Number) (text : Text) (draft : Draft) (position : Nat)
    (rest : Text) : Except Stop Condition :=
  match readLocation draft.location position rest with
  | .error stop => .error stop
  | .ok (location, position, options) =>
    optionsFrom defaultCapacity text { draft with location } position options

/-- What the readers make of a text from a digit of the count on. -/
def countFrom (defaultCapacity : Number) (text : Text) (draft : Draft) (position : Nat)
    (rest : Text) : Except Stop Condition :=
  match readDigits draft.expect position rest with
  | .error offset => .error ⟨offset, .countTooLarge⟩
  | .ok count =>
    locationFrom defaultCapacity text { draft with expect := count.value } count.length count.rest

/-- What the readers make of a text from a reading on. At the first position they begin. -/
def Scan.answer (defaultCapacity : Number) (text : Text) (scan : Scan) : Except Stop Condition :=
  match scan.phase with
  | .count =>
    if scan.position = 0 then read defaultCapacity text
    else countFrom defaultCapacity text scan.draft scan.position (text.drop scan.position)
  | .location => locationFrom defaultCapacity text scan.draft scan.position
      (text.drop scan.position)
  | .options => optionsFrom defaultCapacity text scan.draft scan.position
      (text.drop scan.position)

/-! ## No turn changes the answer -/

theorem drop_eq_cons {position : Nat} {u : CodeUnit} (hu : text[position]? = some u) :
    text.drop position = u :: text.drop (position + 1) := by
  obtain ⟨hinside, rfl⟩ := List.getElem?_eq_some_iff.mp hu
  exact List.drop_eq_getElem_cons hinside

section Turns

variable {position : Nat} {draft : Draft} {u : CodeUnit}

/-- A turn among the options. -/
theorem optionsFrom_eq_turn (hu : text[position]? = some u) :
    optionsFrom defaultCapacity text draft position (text.drop position) =
      Scan.turn defaultCapacity text ⟨.options, position, draft⟩ u >>=
        Scan.answer defaultCapacity text := by
  rw [optionsFrom, Scan.turn, optionAt, drop_eq_cons hu, readOptions]
  cases readOption draft.counting defaultCapacity (u :: text.drop (position + 1)) with
  | error stop => rfl
  | ok run =>
    have hbehind : (text.drop (position + 1)).drop run.last =
        text.drop (position + run.last + 1) := by
      rw [List.drop_drop, Nat.add_right_comm]
    dsimp only
    rw [hbehind]
    rfl

/-- A turn in front of the colon, also the one that finds the end of the count. -/
theorem locationFrom_eq_turn (hu : text[position]? = some u) (phase : Phase) :
    locationFrom defaultCapacity text draft position (text.drop position) =
      Scan.locationTurn ⟨phase, position, draft⟩ u >>= Scan.answer defaultCapacity text := by
  rw [locationFrom, Scan.locationTurn, drop_eq_cons hu]
  by_cases hcolon : u = unit ':'
  · simp only [readLocation, if_pos hcolon]
    rfl
  · by_cases hflag : u = unit 's'
    · cases draft.location <;>
        simp only [readLocation, if_neg hcolon, if_pos hflag] <;> rfl
    · simp only [readLocation, if_neg hcolon, if_neg hflag]
      rfl

/-- A turn among the digits. In the first position there has to be one. -/
theorem countFrom_eq_turn (hu : text[position]? = some u)
    (hstart : position = 0 → u ≠ unit '-' ∧ digit? u ≠ none) :
    countFrom defaultCapacity text draft position (text.drop position) =
      Scan.countTurn ⟨.count, position, draft⟩ u >>= Scan.answer defaultCapacity text := by
  rw [countFrom, Scan.countTurn, if_neg fun h => (hstart h.1).1 h.2, drop_eq_cons hu, readDigits]
  cases hdigit : digit? u with
  | none =>
    have hpos : position ≠ 0 := fun h => (hstart h).2 hdigit
    simp only [if_neg hpos]
    rw [← locationFrom_eq_turn hu, drop_eq_cons hu]
  | some d =>
    by_cases hbound : draft.expect * 10 + d ≤ Number.maxCount
    · simp only [if_pos hbound]
      rfl
    · simp only [if_neg hbound]
      rfl

end Turns

/-- Digits are read in the same way wherever they are counted from. -/
theorem readDigits_add (start : Nat) {rest : Text} : ∀ {value length : Nat},
    readDigits value (start + length) rest =
      ((readDigits value length rest).mapError (start + ·)).map fun run =>
        { run with length := start + run.length } := by
  induction rest with
  | nil =>
    intro value length
    rfl
  | cons u rest ih =>
    intro value length
    rw [readDigits, readDigits]
    cases digit? u with
    | none => rfl
    | some d =>
      by_cases hbound : value * 10 + d ≤ Number.maxCount
      · simp only [if_pos hbound]
        rw [Nat.add_assoc]
        exact ih
      · simp only [if_neg hbound]
        rfl

/-- The readers begin with the digits behind the sign, if there is a sign or a digit. -/
theorem read_eq_countFrom {counting : Outcome} {start : Nat} {unsigned : Text}
    (hsign : splitSign text = (counting, start, unsigned))
    (hbegins : start = 0 → ¬ NoDigitFirst unsigned) :
    read defaultCapacity text = countFrom defaultCapacity text { counting } start unsigned := by
  have hshift : readDigits 0 (start + 0) unsigned = _ := readDigits_add start
  rw [Nat.add_zero] at hshift
  rw [read, hsign, countFrom, hshift]
  dsimp only
  cases hread : readDigits 0 0 unsigned with
  | error offset => rfl
  | ok count =>
    have hdigits : ¬ (start = 0 ∧ count.length = 0) := by
      rintro ⟨hstart, hlength⟩
      obtain ⟨digits, htext, -, hrest, -, hdigits, -⟩ := readDigits_eq_ok_iff.mp hread
      obtain rfl := List.length_eq_zero_iff.mp (hdigits.symm.trans hlength)
      exact hbegins hstart (htext ▸ hrest)
    simp only [if_neg hdigits]
    rfl

/-- The first turn, in front of which the readers have not begun. -/
theorem read_eq_turn {u : CodeUnit} (hu : text[0]? = some u) :
    read defaultCapacity text =
      Scan.countTurn {} u >>= Scan.answer defaultCapacity text := by
  have htext : text = u :: text.drop 1 := drop_eq_cons hu
  by_cases hminus : u = unit '-'
  · subst hminus
    have hsign : splitSign text = (.failure, 1, text.drop 1) := by
      rw [htext]
      rfl
    rw [read_eq_countFrom hsign (by simp), Scan.countTurn, if_pos ⟨rfl, rfl⟩]
    rfl
  · have hsign : splitSign text = (.success, 0, text) := by
      rw [htext, splitSign, if_neg hminus]
    cases hdigit : digit? u with
    | none =>
      have hnone : NoDigitFirst text := by
        rw [htext]
        exact noDigitFirst_cons hdigit
      rw [read_eq_iff.mpr (.unexpectedStart hsign (readDigits_of_noDigitFirst hnone) rfl
        (List.head?_eq_getElem?.trans hu)), Scan.countTurn, if_neg (by simp [hminus])]
      simp only [hdigit]
      rfl
    | some d =>
      have hbegins : ¬ NoDigitFirst text := by
        rw [htext]
        simp [NoDigitFirst, hdigit]
      rw [read_eq_countFrom hsign fun _ => hbegins]
      exact countFrom_eq_turn hu fun _ => ⟨hminus, by simp [hdigit]⟩

namespace Scan

variable {scan : Scan}

/-- **No turn changes the answer.** What the readers make of the text from a reading on is what they
make of it from the next turn on, and a turn that rejects the text gives their reason. -/
theorem answer_eq_turn {u : CodeUnit} (hstart : scan.position = 0 → scan = {})
    (hu : text[scan.position]? = some u) :
    scan.answer defaultCapacity text =
      scan.turn defaultCapacity text u >>= answer defaultCapacity text := by
  by_cases hzero : scan.position = 0
  · obtain rfl := hstart hzero
    exact read_eq_turn hu
  · obtain ⟨phase, position, draft⟩ := scan
    cases phase with
    | count =>
      rw [answer]
      exact (if_neg hzero).trans (countFrom_eq_turn hu fun h => absurd h hzero)
    | location => exact locationFrom_eq_turn hu .location
    | options => exact optionsFrom_eq_turn hu

/-- Behind the text the readers look at the count. -/
theorem answer_of_end (hstart : scan.position = 0 → scan = {})
    (hend : text[scan.position]? = none) :
    scan.answer defaultCapacity text = scan.draft.complete text := by
  have hdrop : text.drop scan.position = [] :=
    List.drop_eq_nil_of_le (List.getElem?_eq_none_iff.mp hend)
  by_cases hzero : scan.position = 0
  · obtain rfl := hstart hzero
    obtain rfl : text = [] := hdrop
    simp [answer, read, splitSign, readDigits, readLocation, readOptions, Draft.complete]
  · unfold answer
    rw [hdrop, if_neg hzero]
    cases scan.phase <;>
      simp [countFrom, locationFrom, optionsFrom, readDigits, readLocation, readOptions]

/-! ## The loop -/

/-- **The loop ends with the answer** within as many turns as there are units from the position
on. -/
theorem within_eq_answer {turns : Nat} (hstart : scan.position = 0 → scan = {})
    (hturns : text.length ≤ scan.position + turns) :
    scan.within defaultCapacity text turns = some (scan.answer defaultCapacity text) := by
  induction turns generalizing scan with
  | zero =>
    have hend : text[scan.position]? = none := List.getElem?_eq_none hturns
    rw [within, hend, answer_of_end hstart hend]
  | succ turns ih =>
    rw [within]
    cases hu : text[scan.position]? with
    | none => rw [answer_of_end hstart hu]
    | some u =>
      rw [answer_eq_turn hstart hu]
      cases hturn : scan.turn defaultCapacity text u with
      | error stop =>
        simp only [hturn]
        rfl
      | ok next =>
        have hadvances := (turn_advances hu hturn).1
        simp only [hturn]
        exact ih (fun hzero => absurd hzero (by omega)) (by omega)

/-- One turn fewer than units can be too few. -/
example : within (.ofNat 100) "3:x" 2 {} = none := by decide +kernel

end Scan

/-! ## Whole texts -/

/-- **Reading advances inside the text.** An option that is read at a position ends inside the text
and not before the position, its turn goes on right behind it, and it is read from its own units: a
text with the same units in its place, and with an opening parenthesis behind it or not just as
well, has the same option there, with the same effect on the draft. Every turn of the loop that goes
on moves the position, and not out of the text. The loop therefore ends within as many turns as the
text has units, accepted or not, and its result is what the text denotes. -/
theorem parse_advances (defaultCapacity : Number) (text : Text) :
    (∀ (position last : Nat) (draft next : Draft),
      optionAt defaultCapacity text position draft = .ok (last, next) →
        (position ≤ last ∧ last < text.length) ∧
        (∀ u, Scan.turn defaultCapacity text ⟨.options, position, draft⟩ u =
          .ok ⟨.options, last + 1, next⟩) ∧
        ∀ text' : Text, (∀ i, position ≤ i → i ≤ last → text'[i]? = text[i]?) →
          (text'[last + 1]? = some (unit '(') ↔ text[last + 1]? = some (unit '(')) →
          optionAt defaultCapacity text' position draft = .ok (last, next)) ∧
    (∀ (scan next : Scan) (u : CodeUnit), text[scan.position]? = some u →
      scan.turn defaultCapacity text u = .ok next →
        scan.position < next.position ∧ next.position ≤ text.length) ∧
    parseWithin defaultCapacity text text.length = some (parse defaultCapacity text) := by
  refine ⟨fun position last draft next hoption => ⟨optionAt_inside hoption, fun u => ?_,
    fun text' => optionAt_of_same_units hoption⟩, fun scan next u => Scan.turn_advances, ?_⟩
  · simp only [Scan.turn, hoption]
  · have hloop : Scan.within defaultCapacity text text.length {} =
        some (read defaultCapacity text) :=
      Scan.within_eq_answer (fun _ => rfl) (Nat.le_add_left ..)
    rw [parseWithin, hloop]
    rfl

/-- A map with arguments behind a count with a sign, in a text that is accepted, and the same map at
the end of a text that is none: the option ends at its closing parenthesis in both. -/
theorem parse_advances_map_arguments :
    let text : Text := "-3s:+nm(7:_*)x"
    let draft : Draft := { expect := 3, counting := .failure, location := .sequence }
    let next : Draft := draft.withOption (.map ⟨.ofNat 7, ⟨"_", "*"⟩⟩)
    optionAt (.ofNat 100) text 6 draft = .ok (12, next) ∧ 12 < text.length ∧
      optionAt (.ofNat 100) "((((((m(7:_*)" 6 draft = .ok (12, next) ∧
      parseWithin (.ofNat 100) text text.length = some (parse (.ofNat 100) text) := by
  intro text draft next
  have hoption : optionAt (.ofNat 100) text 6 draft = .ok (12, next) := by decide +kernel
  have hsame : ∀ i < 13, 6 ≤ i → (Text.ofString "((((((m(7:_*)")[i]? = text[i]? := by decide
  obtain ⟨hoptions, -, hloop⟩ := parse_advances (.ofNat 100) text
  obtain ⟨⟨-, hinside⟩, -, hlocal⟩ := hoptions 6 12 draft next hoption
  exact ⟨hoption, hinside,
    hlocal _ (fun i hfirst hlast => hsame i (Nat.lt_succ_of_le hlast) hfirst) (by decide), hloop⟩

end Probing.Condition
