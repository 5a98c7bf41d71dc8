import Mathlib.Data.List.Basic
import Probing.Proofs.Condition.Reading

/-!
# Rejected conditions

A text is rejected at a unit of its own or just behind its end. A rejection at a unit is final:
nothing that is written behind the text can mend it, and the place and the reason stay the same. The
one exception is the test of the count against zero, which comes last and names the first column;
it is left for texts in which nothing but the count is wrong.

## Main definitions

* `Stop.Settled`: a stop that nothing written behind the text can move
* `WrongInCountOnly`: the texts in which nothing but the count is wrong
* `Defect.IsFinal`: a rejection at a unit, for another reason than the count

## Main results

* `readOption_settled`, `readOptions_settled`, `readLocation_settled`: the stops of the readers
* `read_settled`: the stops of whole texts
* `read_eq_zeroCount_iff`: what it means that the count is the reason
* `parse_error_located`: a rejection is located in its text and final
-/

namespace Probing.Condition

variable {counting : Outcome} {defaultCapacity : Number}

/-! ## Stops of readers -/

/-- A reader that counts its offsets from `start` stopped at a unit of the text or behind its end,
and at a unit it stops whatever is written behind the text. The count is nothing it looks at. -/
structure Stop.Settled {α : Type} (reader : Text → Except Stop α) (start : Nat) (text : Text)
    (stop : Stop) : Prop where
  offset_le : stop.offset ≤ start + text.length
  reason_ne : stop.reason ≠ .zeroCount
  final : stop.offset < start + text.length → ∀ later, reader (text ++ later) = .error stop

namespace Stop.Settled

variable {α : Type} {reader : Text → Except Stop α} {start : Nat} {text : Text} {stop : Stop}

/-- A stop behind the end of the text. -/
theorem atEnd (hoffset : stop.offset = start + text.length) (hreason : stop.reason ≠ .zeroCount) :
    Settled reader start text stop where
  offset_le := Nat.le_of_eq hoffset
  reason_ne := hreason
  final := fun hinside => absurd hoffset (Nat.ne_of_lt hinside)

/-- A stop at which the reader arrives whatever follows. -/
theorem ofAppend (hoffset : stop.offset ≤ start + text.length) (hreason : stop.reason ≠ .zeroCount)
    (hreader : ∀ later, reader (text ++ later) = .error stop) : Settled reader start text stop where
  offset_le := hoffset
  reason_ne := hreason
  final := fun _ => hreader

end Stop.Settled

/-! ## Digits -/

/-- Digits that are too large are so at one of them, whatever follows. -/
theorem readDigits_error {text : Text} :
    ∀ {value length offset : Nat}, readDigits value length text = .error offset →
      offset < length + text.length ∧
        ∀ later, readDigits value length (text ++ later) = .error offset := by
  induction text with
  | nil =>
    intro value length offset h
    cases h
  | cons u text ih =>
    intro value length offset h
    rw [readDigits] at h
    cases hu : digit? u with
    | none =>
      simp only [hu] at h
      cases h
    | some d =>
      simp only [hu] at h
      split at h
      · next hbound =>
        obtain ⟨hinside, hlater⟩ := ih h
        rw [List.length_cons]
        refine ⟨by omega, fun later => ?_⟩
        rw [List.cons_append, readDigits]
        simp only [hu, if_pos hbound, hlater later]
      · next hbound =>
        obtain rfl := Except.error.inj h
        rw [List.length_cons]
        refine ⟨by omega, fun later => ?_⟩
        rw [List.cons_append, readDigits]
        simp only [hu, if_neg hbound]

/-- Digits that end inside the text end there whatever follows. -/
theorem readDigits_append_later {text : Text} {run : DigitRun} (h : readDigits 0 0 text = .ok run)
    (hrest : run.rest ≠ []) (later : Text) :
    readDigits 0 0 (text ++ later) = .ok { run with rest := run.rest ++ later } := by
  obtain ⟨digits, rfl, hdigits, hstop, hval, hlen, hle⟩ := readDigits_eq_ok_iff.mp h
  exact readDigits_eq_ok_iff.mpr
    ⟨digits, List.append_assoc .., hdigits, hstop.append hrest later, hval, hlen, hle⟩

theorem readDigits_length {text : Text} {run : DigitRun} (h : readDigits 0 0 text = .ok run) :
    run.length + run.rest.length = text.length := by
  obtain ⟨digits, rfl, -, -, -, hlen, -⟩ := readDigits_eq_ok_iff.mp h
  rw [hlen, List.length_append]

/-! ## Map arguments -/

theorem readGlyphs_error {offset : Nat} {rest : Text} {stop : Stop}
    (h : readGlyphs offset rest = .error stop) :
    stop.offset ≤ offset + rest.length ∧ stop.reason ≠ .zeroCount := by
  unfold readGlyphs at h
  split at h
  · cases h
  · cases h
  · obtain rfl := Except.error.inj h
    exact ⟨by simp, by simp⟩

/-- Map arguments are rejected at one of their units or at the parenthesis behind them. -/
theorem readMapArguments_error {arguments : Text} {stop : Stop}
    (h : readMapArguments defaultCapacity arguments = .error stop) :
    stop.offset ≤ arguments.length ∧ stop.reason ≠ .zeroCount := by
  by_cases hne : arguments = []
  · rw [readMapArguments, if_pos hne] at h
    obtain rfl := Except.error.inj h
    exact ⟨Nat.zero_le _, by simp⟩
  · cases hread : readDigits 0 0 arguments with
    | error offset =>
      simp only [readMapArguments, if_neg hne, hread] at h
      obtain rfl := Except.error.inj h
      have hinside := (readDigits_error hread).1
      rw [Nat.zero_add] at hinside
      exact ⟨Nat.le_of_lt hinside, by simp⟩
    | ok size =>
      have hlength := readDigits_length hread
      by_cases hhead : ∀ u ∈ size.rest.head?, u = unit ':'
      · rw [readMapArguments_of_readDigits hne hread hhead, readMapArguments.sized] at h
        split at h
        · obtain rfl := Except.error.inj h
          exact ⟨Nat.le.intro hlength, by simp⟩
        · cases hglyphs : readGlyphs size.length size.rest with
          | error inner =>
            simp only [hglyphs] at h
            obtain rfl := Except.error.inj h
            rw [← hlength]
            exact readGlyphs_error hglyphs
          | ok glyphs =>
            simp only [hglyphs] at h
            cases h
      · simp only [not_forall] at hhead
        obtain ⟨u, hu, hcolon⟩ := hhead
        have hu : size.rest.head? = some u := hu
        simp only [readMapArguments, if_neg hne, hread, hu, if_neg hcolon] at h
        obtain rfl := Except.error.inj h
        exact ⟨Nat.le.intro hlength, by simp⟩

/-! ## Options -/

/-- What is read of a letter with arguments does not depend on what stands behind them. -/
theorem readLetter_of_arguments {shown : Option Outcome} {u : CodeUnit} {letter : Letter}
    (hu : Letter.ofUnit? u = some letter) (hshown : ¬ (shown.isSome ∧ letter ≠ .n))
    {arguments : Text} (hopen : unit ')' ∉ arguments) (later : Text) :
    readLetter counting defaultCapacity shown (u :: unit '(' :: arguments ++ unit ')' :: later) =
      if letter = .m then
        ((readMapArguments defaultCapacity arguments).mapError (Stop.shift 2)).map
          fun request => ⟨.map request, arguments.length + 2⟩
      else .error ⟨2, .unexpectedArguments u⟩ := by
  have hclose : unit ')' ∈ arguments ++ unit ')' :: later := by simp
  simp only [List.cons_append, readLetter, hu, if_neg hshown, List.head?_cons, if_true,
    List.drop_succ_cons, List.drop_zero, if_pos hclose, takeWhile_arguments hopen]
  cases readMapArguments defaultCapacity arguments <;> rfl

/-- A letter whose arguments are wrong, or not closed. -/
theorem readLetter_arguments_settled {shown : Option Outcome} {u : CodeUnit} {letter : Letter}
    (hu : Letter.ofUnit? u = some letter) (hshown : ¬ (shown.isSome ∧ letter ≠ .n)) {inner : Text}
    {stop : Stop}
    (h : readLetter counting defaultCapacity shown (u :: unit '(' :: inner) = .error stop) :
    stop.Settled (readLetter counting defaultCapacity shown) 0 (u :: unit '(' :: inner) := by
  by_cases hclose : unit ')' ∈ inner
  · obtain ⟨arguments, behind, rfl, hopen⟩ := List.eq_append_cons_of_mem hclose
    have hread (behind : Text) : readLetter counting defaultCapacity shown
        (u :: unit '(' :: arguments ++ unit ')' :: behind) = _ :=
      readLetter_of_arguments hu hshown hopen behind
    have hstop := (hread behind).symm.trans h
    have hlater : ∀ later, readLetter counting defaultCapacity shown
        (u :: unit '(' :: (arguments ++ unit ')' :: behind) ++ later) = .error stop := by
      intro later
      rw [← hstop, ← hread (behind ++ later)]
      simp
    have hinside : stop.offset ≤ arguments.length + 2 ∧ stop.reason ≠ .zeroCount := by
      split at hstop
      · cases harguments : readMapArguments defaultCapacity arguments with
        | error inner =>
          rw [harguments] at hstop
          obtain rfl := Except.error.inj hstop
          obtain ⟨hoffset, hreason⟩ := readMapArguments_error harguments
          exact ⟨by simp only [Stop.shift]; omega, hreason⟩
        | ok request =>
          rw [harguments] at hstop
          cases hstop
      · obtain rfl := Except.error.inj hstop
        exact ⟨Nat.le_add_left .., by simp⟩
    refine .ofAppend ?_ hinside.2 hlater
    simp only [List.length_cons, List.length_append]
    omega
  · simp only [readLetter, hu, if_neg hshown, List.head?_cons, if_true, List.drop_succ_cons,
      List.drop_zero, if_neg hclose] at h
    obtain rfl := Except.error.inj h
    refine .atEnd ?_ (by simp)
    simp only [List.length_cons, Nat.zero_add]

theorem readLetter_settled {shown : Option Outcome} {text : Text} {stop : Stop}
    (h : readLetter counting defaultCapacity shown text = .error stop) :
    stop.Settled (readLetter counting defaultCapacity shown) 0 text := by
  cases text with
  | nil =>
    obtain rfl := Except.error.inj h
    exact .atEnd rfl (by simp)
  | cons u rest =>
    cases hu : Letter.ofUnit? u with
    | none =>
      have hread : ∀ rest, readLetter counting defaultCapacity shown (u :: rest) =
          .error ⟨0, .unknownOption u⟩ := fun rest => by simp only [readLetter, hu]
      obtain rfl := Except.error.inj ((hread rest).symm.trans h)
      exact .ofAppend (Nat.zero_le _) (by simp) fun later => hread _
    | some letter =>
      by_cases hshown : shown.isSome ∧ letter ≠ .n
      · have hread : ∀ rest, readLetter counting defaultCapacity shown (u :: rest) =
            .error ⟨0, .misplacedSign⟩ := fun rest => by simp only [readLetter, hu, if_pos hshown]
        obtain rfl := Except.error.inj ((hread rest).symm.trans h)
        exact .ofAppend (Nat.zero_le _) (by simp) fun later => hread _
      by_cases hrest : rest.head? = some (unit '(')
      · obtain ⟨inner, rfl⟩ := List.head?_eq_some_iff.mp hrest
        exact readLetter_arguments_settled hu hshown h
      · rw [readLetter_of_plain hu hshown hrest] at h
        cases h

/-- **An option is rejected for good**, unless the text ends too early. -/
theorem readOption_settled {text : Text} {stop : Stop}
    (h : readOption counting defaultCapacity text = .error stop) :
    stop.Settled (readOption counting defaultCapacity) 0 text := by
  cases text with
  | nil =>
    obtain rfl := Except.error.inj h
    exact .atEnd rfl (by simp)
  | cons u rest =>
    cases hu : signed? u with
    | none =>
      have hread : ∀ rest, readOption counting defaultCapacity (u :: rest) =
          readLetter counting defaultCapacity none (u :: rest) := fun rest => by
        simp only [readOption, hu]
      have hletter := readLetter_settled ((hread rest).symm.trans h)
      exact ⟨hletter.offset_le, hletter.reason_ne,
        fun hinside later => (hread _).trans (hletter.final hinside later)⟩
    | some shown =>
      cases hread : readLetter counting defaultCapacity (some shown) rest with
      | error inner =>
        simp only [readOption, hu, hread] at h
        obtain rfl := Except.error.inj h
        have hletter := readLetter_settled hread
        refine ⟨?_, hletter.reason_ne, fun hinside later => ?_⟩
        · have hoffset := hletter.offset_le
          simp only [Stop.shift, List.length_cons]
          omega
        · simp only [Stop.shift, List.length_cons] at hinside
          rw [List.cons_append]
          simp only [readOption, hu, hletter.final (by omega) later]
      | ok run =>
        simp only [readOption, hu, hread] at h
        cases h

theorem Token.CanPrecede.append {token : Token} {rest : Text} (h : token.CanPrecede rest)
    (hne : rest ≠ []) (later : Text) : token.CanPrecede (rest ++ later) := by
  intro hhead
  rw [List.head?_append_of_ne_nil _ hne] at hhead
  exact h hhead

/-- An option that ends inside the text is read in the same way whatever follows. -/
theorem readOption_append_later {u : CodeUnit} {rest : Text} {run : OptionRun}
    (h : readOption counting defaultCapacity (u :: rest) = .ok run) :
    run.last ≤ rest.length ∧ (rest.drop run.last ≠ [] → ∀ later,
      readOption counting defaultCapacity (u :: rest ++ later) = .ok run) := by
  obtain ⟨token, behind, htext, hbehind, rfl⟩ := readOption_eq_ok_iff.mp h
  obtain ⟨v, written, hwritten⟩ := List.exists_cons_of_ne_nil token.written_ne_nil
  have hrest : rest = written ++ behind := by
    rw [hwritten, List.cons_append] at htext
    exact (List.cons.inj htext).2
  have hlast : token.written.length - 1 = written.length := by
    rw [hwritten, List.length_cons, Nat.add_sub_cancel]
  rw [hlast]
  refine ⟨by simp [hrest], fun hne later => readOption_eq_ok_iff.mpr ?_⟩
  rw [hrest, List.drop_left] at hne
  refine ⟨token, behind ++ later, ?_, hbehind.append hne later, by rw [hlast]⟩
  rw [htext, List.append_assoc]

/-- **Options are rejected for good** at the first that cannot be read, unless the text ends too
early. -/
theorem readOptions_settled {report : ReportRequest} {position : Nat} {text : Text} {stop : Stop}
    (h : readOptions counting defaultCapacity report position text = .error stop) :
    stop.Settled (readOptions counting defaultCapacity report position) position text := by
  fun_induction readOptions counting defaultCapacity report position text with
  | case1 report position => cases h
  | case2 report position u rest inner hread =>
    obtain rfl := Except.error.inj h
    have hoption := readOption_settled hread
    refine ⟨?_, hoption.reason_ne, fun hinside later => ?_⟩
    · have hoffset := hoption.offset_le
      simp only [Stop.shift]
      omega
    · simp only [Stop.shift] at hinside
      have hlater := hoption.final (by omega) later
      rw [List.cons_append] at hlater ⊢
      rw [readOptions, hlater]
  | case3 report position u rest run hread ih =>
    obtain ⟨hoffset, hreason, hfinal⟩ := ih h
    obtain ⟨hlast, happend⟩ := readOption_append_later hread
    rw [List.length_drop] at hoffset hfinal
    refine ⟨?_, hreason, fun hinside later => ?_⟩
    · rw [List.length_cons]
      omega
    · rw [List.length_cons] at hinside
      have hne : rest.drop run.last ≠ [] := by
        intro hnil
        rw [hnil, readOptions] at h
        cases h
      have hoption := happend hne later
      rw [List.cons_append] at hoption ⊢
      rw [readOptions, hoption]
      dsimp only
      rw [List.drop_append_of_le_length hlast]
      exact hfinal (by omega) later

/-! ## The location -/

/-- **A location is rejected for good.** -/
theorem readLocation_settled {location : Location} {position : Nat} {text : Text} {stop : Stop}
    (h : readLocation location position text = .error stop) :
    stop.Settled (readLocation location position) position text := by
  fun_induction readLocation location position text with
  | case1 location position => cases h
  | case2 location position rest => cases h
  | case3 position rest hcolon =>
    obtain rfl := Except.error.inj h
    refine .ofAppend (Nat.le_add_right ..) (by simp) fun later => ?_
    rw [List.cons_append, readLocation, if_neg hcolon, if_pos rfl]
  | case4 position rest hcolon ih =>
    obtain ⟨hoffset, hreason, hfinal⟩ := ih h
    refine ⟨?_, hreason, fun hinside later => ?_⟩
    · rw [List.length_cons]
      omega
    · rw [List.length_cons] at hinside
      rw [List.cons_append, readLocation, if_neg hcolon, if_pos rfl]
      exact hfinal (by omega) later
  | case5 location position u rest hcolon hflag =>
    obtain rfl := Except.error.inj h
    refine .ofAppend (Nat.le_add_right ..) (by simp) fun later => ?_
    cases location <;> rw [List.cons_append, readLocation, if_neg hcolon, if_neg hflag]

/-- A location that ends inside the text is read in the same way whatever follows. -/
theorem readLocation_append_later {location found : Location} {position next : Nat}
    {text rest : Text} (h : readLocation location position text = .ok (found, next, rest)) :
    next + rest.length = position + text.length ∧ (rest ≠ [] → ∀ later,
      readLocation location position (text ++ later) = .ok (found, next, rest ++ later)) := by
  fun_induction readLocation location position text with
  | case1 location position =>
    cases h
    exact ⟨rfl, fun hne => absurd rfl hne⟩
  | case2 location position behind =>
    cases h
    rw [List.length_cons]
    refine ⟨by omega, fun _ later => ?_⟩
    cases found <;> rw [List.cons_append, readLocation, if_pos rfl]
  | case3 position behind hcolon => cases h
  | case4 position behind hcolon ih =>
    obtain ⟨hlength, happend⟩ := ih h
    rw [List.length_cons]
    refine ⟨by omega, fun hne later => ?_⟩
    rw [List.cons_append, readLocation, if_neg hcolon, if_pos rfl]
    exact happend hne later
  | case5 location position u behind hcolon hflag => cases h

/-! ## Whole texts -/

theorem splitSign_length {text unsigned : Text} {start : Nat}
    (h : splitSign text = (counting, start, unsigned)) :
    start + unsigned.length = text.length := by
  obtain ⟨negative, rest, rfl, hsign⟩ := splitSign_cases text
  cases hsign.symm.trans h
  cases negative <;> simp [Nat.add_comm]

theorem splitSign_append_later {text unsigned : Text} {start : Nat}
    (h : splitSign text = (counting, start, unsigned)) (hne : text ≠ []) (later : Text) :
    splitSign (text ++ later) = (counting, start, unsigned ++ later) := by
  cases text with
  | nil => exact absurd rfl hne
  | cons u rest =>
    rw [List.cons_append, splitSign]
    rw [splitSign] at h
    split at h
    · next hu =>
      cases h
      rw [if_pos hu]
    · next hu =>
      cases h
      rw [if_neg hu]
      rfl

theorem CountRead.length {text : Text} {start : Nat} {count : DigitRun}
    (h : CountRead text counting start count) :
    start + count.length + count.rest.length = text.length := by
  obtain ⟨unsigned, hsign, hdigits⟩ := h.digits_eq
  have hsplit := splitSign_length hsign
  have hread := readDigits_length hdigits
  omega

/-- A count that ends inside the text is read in the same way whatever follows. -/
theorem CountRead.append_later {text : Text} {start : Nat} {count : DigitRun}
    (h : CountRead text counting start count) (hrest : count.rest ≠ []) (later : Text) :
    CountRead (text ++ later) counting start { count with rest := count.rest ++ later } := by
  have hpos := List.length_pos_iff.mpr hrest
  have hlength := h.length
  have hne : text ≠ [] := List.length_pos_iff.mp (by omega)
  obtain ⟨unsigned, hsign, hdigits⟩ := h.digits_eq
  refine ⟨⟨_, splitSign_append_later hsign hne later, readDigits_append_later hdigits hrest later⟩,
    fun hstart hempty => ?_⟩
  exact absurd (h.begins hstart hempty) hne

/-- **A text is rejected for good**, unless it ends too early or only its count is wrong. -/
theorem read_settled {text : Text} {stop : Stop} (h : read defaultCapacity text = .error stop)
    (hreason : stop.reason ≠ .zeroCount) : stop.Settled (read defaultCapacity) 0 text := by
  generalize hresult : Except.error stop = result at h
  cases read_eq_iff.mp h with
  | @countTooLarge counting start offset unsigned hsign hdigits =>
    obtain rfl := Except.error.inj hresult
    obtain ⟨hinside, hlater⟩ := readDigits_error hdigits
    have hlength := splitSign_length hsign
    refine .ofAppend (by dsimp only; omega) hreason fun later => read_eq_iff.mpr ?_
    have hne : text ≠ [] := List.length_pos_iff.mp (by omega)
    exact .countTooLarge (splitSign_append_later hsign hne later) (hlater later)
  | @unexpectedStart counting unsigned count found hsign hdigits hlength hfound =>
    obtain rfl := Except.error.inj hresult
    refine .ofAppend (Nat.zero_le _) hreason fun later => read_eq_iff.mpr ?_
    have hne : text ≠ [] := by
      rintro rfl
      cases hfound
    have hpos := List.length_pos_iff.mpr hne
    have hrest : count.rest ≠ [] := by
      have hsplit := splitSign_length hsign
      have hread := readDigits_length hdigits
      exact List.length_pos_iff.mp (by omega)
    refine .unexpectedStart (splitSign_append_later hsign hne later)
      (readDigits_append_later hdigits hrest later) hlength ?_
    rw [List.head?_append_of_ne_nil _ hne, hfound]
  | @location counting start count stop' hcount hlocation =>
    obtain rfl := Except.error.inj hresult
    have hsettled := readLocation_settled hlocation
    have hoffset := hsettled.offset_le
    have hlength := hcount.length
    refine ⟨by omega, hreason, fun hinside later => read_eq_iff.mpr ?_⟩
    have hrest : count.rest ≠ [] := by
      rintro hnil
      rw [hnil] at hlocation
      cases hlocation
    exact .location (hcount.append_later hrest later) (hsettled.final (by omega) later)
  | @options counting start position count location rest stop' hcount hlocation hoptions =>
    obtain rfl := Except.error.inj hresult
    have hsettled := readOptions_settled hoptions
    have hoffset := hsettled.offset_le
    have hlength := hcount.length
    obtain ⟨hnext, happend⟩ := readLocation_append_later hlocation
    refine ⟨by omega, hreason, fun hinside later => read_eq_iff.mpr ?_⟩
    have hoptionsRest : rest ≠ [] := by
      rintro rfl
      rw [readOptions] at hoptions
      cases hoptions
    have hcountRest : count.rest ≠ [] := by
      rintro hnil
      rw [hnil] at hlocation
      cases hlocation
      exact absurd rfl hoptionsRest
    exact .options (hcount.append_later hcountRest later) (happend hoptionsRest later)
      (hsettled.final (by omega) later)
  | complete hcount hlocation hoptions =>
    split at hresult
    · obtain rfl := Except.error.inj hresult
      exact absurd rfl hreason
    · cases hresult

/-! ## Defects -/

/-- Nothing but the count of a text is wrong: in its place there are digits of value zero, or none.
A text without a sign that is not empty has to begin with a digit to get that far. -/
def WrongInCountOnly (text : Text) : Prop :=
  ∃ (phrase : Phrase) (digits : Text), phrase.writtenWith digits = text ∧
    (∀ u ∈ digits, (digit? u).isSome) ∧ decimalValue digits = 0 ∧
    (digits = [] → phrase.negative = true ∨ text = [])

/-- The count is the reason exactly when nothing else is wrong, and it is reported at the start. -/
theorem read_eq_zeroCount_iff {text : Text} {offset : Nat} :
    read defaultCapacity text = .error ⟨offset, .zeroCount⟩ ↔
      offset = 0 ∧ WrongInCountOnly text := by
  constructor
  · intro h
    generalize hresult : Except.error _ = result at h
    cases read_eq_iff.mp h with
    | countTooLarge hsign hdigits => cases hresult
    | unexpectedStart hsign hdigits hlength hfound => cases hresult
    | location hcount hlocation =>
      obtain rfl := Except.error.inj hresult
      exact absurd rfl (readLocation_settled hlocation).reason_ne
    | options hcount hlocation hoptions =>
      obtain rfl := Except.error.inj hresult
      exact absurd rfl (readOptions_settled hoptions).reason_ne
    | complete hcount hlocation hoptions =>
      split at hresult
      · next hzero =>
        cases hresult
        obtain ⟨phrase, digits, htext, hdigits, hval, -, hstart, -⟩ :=
          exists_writtenWith hcount hlocation hoptions
        exact ⟨rfl, phrase, digits, htext, hdigits, hval.symm.trans hzero, hstart⟩
      · cases hresult
  · rintro ⟨rfl, phrase, digits, rfl, hdigits, hzero, hstart⟩
    rw [read_writtenWith phrase hdigits (hzero ▸ Nat.zero_le _) hstart, if_pos hzero]

theorem parse_eq_error_iff {text : Text} {defect : Defect} :
    parse defaultCapacity text = .error defect ↔
      defect.input = text ∧
        read defaultCapacity text = .error ⟨defect.position, defect.reason⟩ := by
  obtain ⟨input, position, reason⟩ := defect
  unfold parse
  cases read defaultCapacity text with
  | error stop =>
    obtain ⟨offset, found⟩ := stop
    simp [Except.mapError, eq_comm]
  | ok condition => simp [Except.mapError]

/-- A rejection at a unit of the text, for another reason than the count. -/
def Defect.IsFinal (defect : Defect) : Prop :=
  defect.column ≤ defect.input.length ∧ defect.reason ≠ .zeroCount

/-- A text is rejected at one of its units or just behind its end. -/
theorem position_le_of_parse {text : Text} {defect : Defect}
    (h : parse defaultCapacity text = .error defect) : defect.position ≤ text.length := by
  obtain ⟨-, hread⟩ := parse_eq_error_iff.mp h
  by_cases hreason : defect.reason = .zeroCount
  · rw [hreason, read_eq_zeroCount_iff] at hread
    rw [hread.1]
    exact Nat.zero_le _
  · have hoffset := (read_settled hread hreason).offset_le
    rwa [Nat.zero_add] at hoffset

/-- **A final rejection** is not mended by anything written behind the text. -/
theorem parse_append_of_isFinal {text : Text} {defect : Defect}
    (h : parse defaultCapacity text = .error defect) (hfinal : defect.IsFinal) (later : Text) :
    parse defaultCapacity (text ++ later) = .error { defect with input := text ++ later } := by
  obtain ⟨rfl, hread⟩ := parse_eq_error_iff.mp h
  refine parse_eq_error_iff.mpr ⟨rfl, (read_settled hread hfinal.2).final ?_ later⟩
  rw [Nat.zero_add]
  exact hfinal.1

/-- **A rejection is located in its text and final.** It names the text, a column of it or the one
behind its end, and the unit in that column. A rejection at a unit for another reason than the count
stays the same whatever is written behind the text, so that no part of the text in front of that
unit is rejected for good. The count is the reason exactly when nothing else is wrong. -/
theorem parse_error_located {text : Text} {defect : Defect}
    (h : parse defaultCapacity text = .error defect) :
    defect.input = text ∧ (1 ≤ defect.column ∧ defect.column ≤ text.length + 1) ∧
      (defect.character?.isSome ↔ defect.column ≤ text.length) ∧
      (defect.column ≤ text.length → defect.character? = text[defect.column - 1]?) ∧
      (defect.column ≤ text.length → defect.reason ≠ .zeroCount → ∀ later, ∃ defect',
        parse defaultCapacity (text ++ later) = .error defect' ∧ defect'.column = defect.column ∧
          defect'.character? = defect.character? ∧ defect'.reason = defect.reason) ∧
      (∀ earlier later defect', text = earlier ++ later → earlier.length < defect.column →
        parse defaultCapacity earlier = .error defect' → ¬ defect'.IsFinal) ∧
      (defect.reason = .zeroCount ↔ WrongInCountOnly text) := by
  have hposition := position_le_of_parse h
  obtain ⟨rfl, hread⟩ := parse_eq_error_iff.mp h
  have hunit : defect.character?.isSome ↔ defect.column ≤ defect.input.length := by
    rw [Defect.character?, isSome_getElem?]
    exact Iff.rfl
  refine ⟨rfl, ⟨Nat.le_add_left .., Nat.succ_le_succ hposition⟩, hunit, fun _ => rfl, ?_, ?_, ?_⟩
  · intro hinside hreason later
    refine ⟨_, parse_append_of_isFinal h ⟨hinside, hreason⟩ later, rfl, ?_, rfl⟩
    exact List.getElem?_append_left hinside
  · intro earlier later defect' htext hshort hearlier hfinal
    have hsame := parse_append_of_isFinal hearlier hfinal later
    rw [← htext, h] at hsame
    have hcolumn : defect.column = defect'.column := by
      rw [Except.error.inj hsame]
      rfl
    have hinside : defect'.column ≤ earlier.length := by
      rw [← (parse_eq_error_iff.mp hearlier).1]
      exact hfinal.1
    omega
  · constructor
    · intro hreason
      rw [hreason, read_eq_zeroCount_iff] at hread
      exact hread.2
    · intro hwrong
      have hzero := hread.symm.trans (read_eq_zeroCount_iff.mpr ⟨rfl, hwrong⟩)
      exact congrArg Stop.reason (Except.error.inj hzero)

/-- A sign in front of an option other than `n` is rejected in the fourth column, even when the text
goes on with the arguments of a map. -/
theorem parse_error_located_misplaced_sign :
    ∃ defect, parse (.ofNat 100) "2:+m" = .error defect ∧ defect.column = 4 ∧
      defect.reason = .misplacedSign ∧
      ∃ defect', parse (.ofNat 100) ("2:+m" ++ "(7)") = .error defect' ∧ defect'.column = 4 ∧
        defect'.character? = some (unit 'm') ∧ defect'.reason = .misplacedSign := by
  have h : parse (.ofNat 100) "2:+m" = .error ⟨"2:+m", 3, .misplacedSign⟩ := by decide +kernel
  refine ⟨_, h, rfl, rfl, ?_⟩
  obtain ⟨-, -, -, -, hfinal, -, -⟩ := parse_error_located h
  obtain ⟨defect', hlater, hcolumn, hcharacter, hreason⟩ := hfinal (by decide) (by decide) "(7)"
  exact ⟨defect', hlater, hcolumn, hcharacter, hreason⟩

end Probing.Condition
