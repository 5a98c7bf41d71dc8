import Mathlib.Data.List.Induction
import Probing.Condition.Reader
import Probing.Proofs.Condition.Grammar

/-!
# Reading follows the grammar

Each reader is characterised by the part of the grammar it reads, with the rest of the text
quantified: it succeeds exactly when the text starts with such a part, and its answer is what the
part denotes. The only context a part needs is what must not follow it: no digit behind a numeral,
no opening parenthesis behind an option without arguments.

## Main results

* `readDigits_eq_ok_iff`: digits are read up to the first unit that is none
* `readMapArguments_eq_ok_iff`, `readOption_eq_ok_iff`, `readOptions_eq_ok_iff`: the options
* `parse_eq_ok_iff`: a text is accepted exactly when a phrase is written so, with its meaning
-/

namespace Probing.Condition

/-! ## Digits -/

/-- The value of digits read on top of a value. -/
def valueFrom (value : Nat) (digits : Text) : Nat :=
  (digits.filterMap digit?).foldl (fun value d => value * 10 + d) value

theorem valueFrom_zero (digits : Text) : valueFrom 0 digits = decimalValue digits := rfl

theorem valueFrom_cons {value d : Nat} {u : CodeUnit} {digits : Text} (hu : digit? u = some d) :
    valueFrom value (u :: digits) = valueFrom (value * 10 + d) digits := by
  simp only [valueFrom, List.filterMap_cons, hu, List.foldl_cons]

theorem le_valueFrom {digits : Text} :
    ∀ {value : Nat}, (∀ u ∈ digits, (digit? u).isSome) → value ≤ valueFrom value digits := by
  induction digits with
  | nil => intro value _; exact Nat.le_refl value
  | cons u digits ih =>
    intro value hdigits
    obtain ⟨d, hd⟩ := Option.isSome_iff_exists.mp (hdigits u (List.mem_cons_self ..))
    have hrest : value * 10 + d ≤ valueFrom (value * 10 + d) digits :=
      ih fun v hv => hdigits v (List.mem_cons_of_mem _ hv)
    rw [valueFrom_cons hd]
    omega

/-- A rest at which reading digits stops. -/
def NoDigitFirst (rest : Text) : Prop :=
  ∀ u ∈ rest.head?, digit? u = none

theorem NoDigitFirst.append {rest : Text} (h : NoDigitFirst rest) (hne : rest ≠ [])
    (later : Text) : NoDigitFirst (rest ++ later) := by
  cases rest with
  | nil => exact absurd rfl hne
  | cons u rest => exact h

theorem readDigits_append {digits rest : Text} (hrest : NoDigitFirst rest) :
    ∀ {value length : Nat}, (∀ u ∈ digits, (digit? u).isSome) →
      valueFrom value digits ≤ Number.maxCount →
      readDigits value length (digits ++ rest) =
        .ok ⟨valueFrom value digits, length + digits.length, rest⟩ := by
  induction digits with
  | nil =>
    intro value length _ _
    cases rest with
    | nil => rfl
    | cons u rest =>
      have hu : digit? u = none := hrest u rfl
      simp [readDigits, hu, valueFrom]
  | cons u digits ih =>
    intro value length hdigits hvalue
    obtain ⟨d, hd⟩ := Option.isSome_iff_exists.mp (hdigits u (List.mem_cons_self ..))
    have hlater : ∀ v ∈ digits, (digit? v).isSome := fun v hv =>
      hdigits v (List.mem_cons_of_mem _ hv)
    rw [valueFrom_cons hd] at hvalue ⊢
    -- The reader tests the bound at every digit, and values only grow.
    have hbound : value * 10 + d ≤ Number.maxCount :=
      Nat.le_trans (le_valueFrom hlater) hvalue
    rw [List.cons_append, readDigits, hd]
    simp only [if_pos hbound]
    rw [ih hlater hvalue, List.length_cons]
    congr 2
    omega

theorem readDigits_sound {text : Text} {run : DigitRun} :
    ∀ {value length : Nat}, value ≤ Number.maxCount → readDigits value length text = .ok run →
      ∃ digits, text = digits ++ run.rest ∧ (∀ u ∈ digits, (digit? u).isSome) ∧
        NoDigitFirst run.rest ∧ run.value = valueFrom value digits ∧
        run.length = length + digits.length ∧ run.value ≤ Number.maxCount := by
  induction text with
  | nil =>
    intro value length hvalue h
    obtain rfl := Except.ok.inj h
    exact ⟨[], rfl, by simp, by simp [NoDigitFirst], rfl, rfl, hvalue⟩
  | cons u text ih =>
    intro value length hvalue h
    rw [readDigits] at h
    cases hu : digit? u with
    | none =>
      simp only [hu] at h
      obtain rfl := Except.ok.inj h
      exact ⟨[], rfl, by simp, by simpa [NoDigitFirst] using hu, rfl, rfl, hvalue⟩
    | some d =>
      simp only [hu] at h
      split at h
      · next hbound =>
        obtain ⟨digits, htext, hdigits, hrest, hval, hlen, hle⟩ := ih hbound h
        refine ⟨u :: digits, by rw [htext, List.cons_append], ?_, hrest, ?_, ?_, hle⟩
        · intro v hv
          rcases List.mem_cons.mp hv with rfl | hv
          · simp [hu]
          · exact hdigits v hv
        · rw [hval, valueFrom_cons hu]
        · rw [hlen, List.length_cons]
          omega
      · cases h

/-- Digits are read up to the first unit that is none, as long as their value can be counted up
to. -/
theorem readDigits_eq_ok_iff {text : Text} {run : DigitRun} :
    readDigits 0 0 text = .ok run ↔
      ∃ digits, text = digits ++ run.rest ∧ (∀ u ∈ digits, (digit? u).isSome) ∧
        NoDigitFirst run.rest ∧ run.value = decimalValue digits ∧ run.length = digits.length ∧
        run.value ≤ Number.maxCount := by
  constructor
  · intro h
    obtain ⟨digits, htext, hdigits, hrest, hval, hlen, hle⟩ := readDigits_sound (Nat.zero_le _) h
    exact ⟨digits, htext, hdigits, hrest, hval, by rw [hlen, Nat.zero_add], hle⟩
  · rintro ⟨digits, rfl, hdigits, hrest, hval, hlen, hle⟩
    rw [hval, ← valueFrom_zero] at hle
    rw [readDigits_append hrest hdigits hle, valueFrom_zero, ← hval, Nat.zero_add, ← hlen]

theorem Numeral.digits_ne_nil (numeral : Numeral) : numeral.digits ≠ [] := by
  intro h
  have hpos := numeral.value_pos
  rw [h] at hpos
  exact absurd hpos (by decide)

theorem readDigits_numeral (numeral : Numeral) {rest : Text} (hrest : NoDigitFirst rest) :
    readDigits 0 0 (numeral.digits ++ rest) =
      .ok ⟨numeral.value, numeral.digits.length, rest⟩ :=
  readDigits_eq_ok_iff.mpr
    ⟨numeral.digits, rfl, numeral.all_digits, hrest, rfl, rfl, numeral.value_le⟩

theorem readDigits_of_noDigitFirst {rest : Text} (hrest : NoDigitFirst rest) :
    readDigits 0 0 rest = .ok ⟨0, 0, rest⟩ :=
  readDigits_eq_ok_iff.mpr ⟨[], rfl, by simp, hrest, rfl, rfl, Nat.zero_le _⟩

/-! ## Map arguments -/

theorem noDigitFirst_nil : NoDigitFirst [] := by
  simp [NoDigitFirst]

theorem noDigitFirst_cons {u : CodeUnit} {rest : Text} (hu : digit? u = none) :
    NoDigitFirst (u :: rest) := by
  simpa [NoDigitFirst] using hu

theorem readGlyphs_written (glyphs : Option GlyphPair) (offset : Nat) :
    readGlyphs offset (glyphs.elim [] GlyphPair.written) =
      .ok (glyphs.elim .standard GlyphPair.glyphs) := by
  cases glyphs with
  | none => rfl
  | some pair => rfl

theorem readGlyphs_sound {offset : Nat} {rest : Text} {result : Glyphs}
    (hopen : unit ')' ∉ rest) (hhead : ∀ u ∈ rest.head?, u = unit ':')
    (h : readGlyphs offset rest = .ok result) :
    ∃ glyphs : Option GlyphPair,
      rest = glyphs.elim [] GlyphPair.written ∧
        result = glyphs.elim .standard GlyphPair.glyphs := by
  unfold readGlyphs at h
  split at h
  · exact ⟨none, rfl, (Except.ok.inj h).symm⟩
  · next u success failure =>
    obtain rfl := hhead u rfl
    simp only [List.mem_cons, List.not_mem_nil, or_false, not_or] at hopen
    obtain ⟨-, hsuccess, hfailure⟩ := hopen
    exact ⟨some ⟨success, failure, Ne.symm hsuccess, Ne.symm hfailure⟩, rfl,
      (Except.ok.inj h).symm⟩
  · cases h

theorem MapArguments.written_ne_nil (arguments : MapArguments) : arguments.written ≠ [] := by
  obtain ⟨size, glyphs, nonempty⟩ := arguments
  rcases size with - | size
  · rcases glyphs with - | pair
    · simp at nonempty
    · simp [MapArguments.written, GlyphPair.written]
  · simp [MapArguments.written, size.digits_ne_nil]

theorem noDigitFirst_glyphs (glyphs : Option GlyphPair) :
    NoDigitFirst (glyphs.elim [] GlyphPair.written) := by
  cases glyphs with
  | none => exact noDigitFirst_nil
  | some pair => exact noDigitFirst_cons (by decide)

/-- Once the size is read, arguments whose rest is empty or starts with the colon are those of the
size. -/
theorem readMapArguments_of_readDigits {defaultCapacity : Number} {text : Text} {size : DigitRun}
    (hne : text ≠ []) (hread : readDigits 0 0 text = .ok size)
    (hhead : ∀ u ∈ size.rest.head?, u = unit ':') :
    readMapArguments defaultCapacity text = readMapArguments.sized defaultCapacity size := by
  rw [readMapArguments, if_neg hne, hread]
  dsimp only
  cases hrest : size.rest.head? with
  | none => rfl
  | some u =>
    obtain rfl := hhead u hrest
    rfl

theorem readMapArguments_written (defaultCapacity : Number) (arguments : MapArguments) :
    readMapArguments defaultCapacity arguments.written =
      .ok (arguments.request defaultCapacity) := by
  have hne := arguments.written_ne_nil
  obtain ⟨size, glyphs, nonempty⟩ := arguments
  have hhead : ∀ u ∈ (glyphs.elim [] GlyphPair.written).head?, u = unit ':' := by
    cases glyphs with
    | none => simp
    | some pair => simp [GlyphPair.written]
  cases size with
  | none =>
    have hread := readDigits_of_noDigitFirst (noDigitFirst_glyphs glyphs)
    rw [readMapArguments_of_readDigits hne hread hhead]
    simp [readMapArguments.sized, readGlyphs_written, MapArguments.request]
  | some size =>
    have hread := readDigits_numeral size (noDigitFirst_glyphs glyphs)
    have hlength : 0 < size.digits.length := List.length_pos_iff.mpr size.digits_ne_nil
    have hvalue : size.value ≠ 0 := Nat.ne_of_gt size.value_pos
    rw [readMapArguments_of_readDigits hne hread hhead]
    simp [readMapArguments.sized, readGlyphs_written, MapArguments.request, hlength, hvalue]

/-- A size that was read and the glyphs behind it are arguments, unless both are missing. -/
theorem exists_arguments {defaultCapacity : Number} {digits : Text} {size : DigitRun}
    {glyphs : Option GlyphPair} (hdigits : ∀ u ∈ digits, (digit? u).isSome)
    (hval : size.value = decimalValue digits) (hlen : size.length = digits.length)
    (hle : size.value ≤ Number.maxCount) (hzero : ¬ (0 < size.length ∧ size.value = 0))
    (hne : digits ++ glyphs.elim [] GlyphPair.written ≠ []) :
    ∃ arguments : MapArguments,
      arguments.written = digits ++ glyphs.elim [] GlyphPair.written ∧
      arguments.request defaultCapacity =
        ⟨if 0 < size.length then .ofNat size.value else defaultCapacity,
          glyphs.elim .standard GlyphPair.glyphs⟩ := by
  rw [hval, hlen] at hzero ⊢
  rw [hval] at hle
  by_cases hempty : digits = []
  · subst hempty
    have hsome : glyphs.isSome := by
      cases glyphs with
      | none => exact absurd rfl hne
      | some pair => rfl
    exact ⟨⟨none, glyphs, .inr hsome⟩, rfl, rfl⟩
  · have hlength : 0 < digits.length := List.length_pos_iff.mpr hempty
    have hpos : 0 < decimalValue digits := Nat.pos_of_ne_zero fun h0 => hzero ⟨hlength, h0⟩
    refine ⟨⟨some ⟨digits, hdigits, hpos, hle⟩, glyphs, .inl rfl⟩, rfl, ?_⟩
    rw [if_pos hlength]
    rfl

theorem readMapArguments_sound {defaultCapacity : Number} {text : Text} {request : MapRequest}
    (hopen : unit ')' ∉ text) (h : readMapArguments defaultCapacity text = .ok request) :
    ∃ arguments : MapArguments,
      arguments.written = text ∧ arguments.request defaultCapacity = request := by
  have hne : text ≠ [] := by
    rintro rfl
    cases h
  cases hread : readDigits 0 0 text with
  | error offset => simp [readMapArguments, hne, hread] at h
  | ok size =>
    have hhead : ∀ u ∈ size.rest.head?, u = unit ':' := by
      intro u hu
      have hu : size.rest.head? = some u := hu
      by_cases hcolon : u = unit ':'
      · exact hcolon
      · simp [readMapArguments, hne, hread, hu, hcolon] at h
    rw [readMapArguments_of_readDigits hne hread hhead, readMapArguments.sized] at h
    obtain ⟨digits, htext, hdigits, -, hval, hlen, hle⟩ := readDigits_eq_ok_iff.mp hread
    split at h
    · cases h
    next hzero =>
      cases hglyphs : readGlyphs size.length size.rest with
      | error stop => simp [hglyphs] at h
      | ok result =>
        have hrest : unit ')' ∉ size.rest := fun hmem =>
          hopen (htext ▸ List.mem_append_right digits hmem)
        obtain ⟨glyphs, hwritten, rfl⟩ := readGlyphs_sound hrest hhead hglyphs
        simp only [hglyphs] at h
        rw [hwritten] at htext
        obtain ⟨arguments, harguments, hrequest⟩ :=
          exists_arguments hdigits hval hlen hle hzero (htext ▸ hne)
        exact ⟨arguments, harguments.trans htext.symm, hrequest.trans (Except.ok.inj h)⟩

/-- The arguments between the parentheses of a map are read exactly when they are a size, glyphs
or both. -/
theorem readMapArguments_eq_ok_iff {defaultCapacity : Number} {text : Text}
    {request : MapRequest} (hopen : unit ')' ∉ text) :
    readMapArguments defaultCapacity text = .ok request ↔
      ∃ arguments : MapArguments,
        arguments.written = text ∧ arguments.request defaultCapacity = request := by
  constructor
  · exact readMapArguments_sound hopen
  · rintro ⟨arguments, rfl, rfl⟩
    exact readMapArguments_written defaultCapacity arguments

/-! ## Single options -/

/-- The token of a letter that stands alone. -/
def Letter.token : Letter → Token
  | x => .exitStatus
  | n => .count none
  | bothCounts => .bothCounts
  | m => .map none
  | q => .silent
  | c => .state

theorem Letter.ofUnit?_eq_some_iff {u : CodeUnit} {letter : Letter} :
    Letter.ofUnit? u = some letter ↔ letter.token.written = [u] := by
  constructor
  · intro h
    unfold Letter.ofUnit? at h
    repeat' split at h
    all_goals cases h
    all_goals simp [Letter.token, Token.written, *]
  · intro h
    cases letter <;> obtain rfl := (List.cons.inj h).1 <;> decide

theorem signed?_of_letter {u : CodeUnit} {letter : Letter} (hu : Letter.ofUnit? u = some letter) :
    signed? u = none := by
  rw [Letter.ofUnit?_eq_some_iff] at hu
  cases letter <;> obtain rfl := (List.cons.inj hu).1 <;> decide

theorem signed?_eq_some_iff {u : CodeUnit} {shown : Outcome} :
    signed? u = some shown ↔ u = signOf shown := by
  constructor
  · intro h
    unfold signed? at h
    repeat' split at h
    all_goals cases h
    all_goals assumption
  · rintro rfl
    cases shown <;> decide

theorem plainOption_none (counting : Outcome) (defaultCapacity : Number) (letter : Letter) :
    plainOption counting defaultCapacity none letter =
      letter.token.option counting defaultCapacity := by
  cases letter <;> rfl

variable {counting : Outcome} {defaultCapacity : Number}

theorem readLetter_of_plain {shown : Option Outcome} {u : CodeUnit} {rest : Text}
    {letter : Letter} (hu : Letter.ofUnit? u = some letter)
    (hshown : ¬ (shown.isSome ∧ letter ≠ .n)) (hrest : rest.head? ≠ some (unit '(')) :
    readLetter counting defaultCapacity shown (u :: rest) =
      .ok ⟨plainOption counting defaultCapacity shown letter, 0⟩ := by
  simp only [readLetter, hu, if_neg hshown, if_neg hrest]

theorem takeWhile_arguments {arguments rest : Text} (h : unit ')' ∉ arguments) :
    (arguments ++ unit ')' :: rest).takeWhile (· ≠ unit ')') = arguments := by
  rw [List.takeWhile_append_of_pos]
  · simp
  · intro u hu
    simpa using fun he : u = unit ')' => h (he ▸ hu)

theorem MapArguments.close_not_mem (arguments : MapArguments) :
    unit ')' ∉ arguments.written := by
  obtain ⟨size, glyphs, -⟩ := arguments
  intro h
  rcases List.mem_append.mp h with h | h
  · cases size with
    | none => cases h
    | some size => exact absurd (size.all_digits _ h) (by decide)
  · cases glyphs with
    | none => cases h
    | some pair =>
      simp only [Option.elim_some, GlyphPair.written, List.mem_cons, List.not_mem_nil,
        or_false] at h
      rcases h with h | h | h
      · exact absurd h (by decide)
      · exact pair.success_ne h.symm
      · exact pair.failure_ne h.symm

theorem readLetter_map (arguments : MapArguments) (rest : Text) :
    readLetter counting defaultCapacity none
        (unit 'm' :: unit '(' :: arguments.written ++ unit ')' :: rest) =
      .ok ⟨.map (arguments.request defaultCapacity), arguments.written.length + 2⟩ := by
  have hm : Letter.ofUnit? (unit 'm') = some .m := by decide
  simp only [List.cons_append, readLetter, hm, List.head?_cons, List.drop_succ_cons,
    List.drop_zero, if_true]
  rw [if_neg (by simp), if_pos (by simp), takeWhile_arguments arguments.close_not_mem,
    readMapArguments_written]

/-- Reading a written token gives its option and consumes it to its last unit. -/
theorem readOption_written {token : Token} {rest : Text} (hrest : token.CanPrecede rest) :
    readOption counting defaultCapacity (token.written ++ rest) =
      .ok ⟨token.option counting defaultCapacity, token.written.length - 1⟩ := by
  have hplain : ∀ letter : Letter, token = letter.token →
      readOption counting defaultCapacity (token.written ++ rest) =
        .ok ⟨token.option counting defaultCapacity, token.written.length - 1⟩ := by
    rintro letter rfl
    obtain ⟨u, hu⟩ : ∃ u, letter.token.written = [u] := by cases letter <;> exact ⟨_, rfl⟩
    have hletter := Letter.ofUnit?_eq_some_iff.mpr hu
    have hhead : rest.head? ≠ some (unit '(') := by
      intro hhead
      obtain ⟨arguments, harguments⟩ := hrest hhead
      cases letter <;> cases harguments
    rw [hu, List.singleton_append, readOption, signed?_of_letter hletter]
    dsimp only
    rw [readLetter_of_plain hletter (by simp) hhead, plainOption_none]
    rfl
  cases token with
  | exitStatus => exact hplain .x rfl
  | silent => exact hplain .q rfl
  | state => exact hplain .c rfl
  | bothCounts => exact hplain .bothCounts rfl
  | count sign =>
    cases sign with
    | none => exact hplain .n rfl
    | some shown =>
      have hhead : rest.head? ≠ some (unit '(') := by
        intro hhead
        obtain ⟨arguments, harguments⟩ := hrest hhead
        cases harguments
      have hn : Letter.ofUnit? (unit 'n') = some .n := by decide
      simp only [Token.written, List.cons_append, List.nil_append, readOption,
        signed?_eq_some_iff.mpr rfl]
      rw [readLetter_of_plain hn (by simp) hhead]
      rfl
  | map arguments =>
    cases arguments with
    | none => exact hplain .m rfl
    | some arguments =>
      have hm : signed? (unit 'm') = none := by decide
      simp only [Token.written, List.append_assoc, List.cons_append, List.nil_append, readOption,
        hm]
      rw [← List.cons_append, ← List.cons_append, readLetter_map]
      simp [Token.option]

theorem readLetter_signed_sound {shown : Outcome} {text : Text} {run : OptionRun}
    (h : readLetter counting defaultCapacity (some shown) text = .ok run) :
    ∃ rest, text = unit 'n' :: rest ∧ rest.head? ≠ some (unit '(') ∧ run = ⟨.count shown, 0⟩ := by
  cases text with
  | nil => cases h
  | cons u rest =>
    cases hu : Letter.ofUnit? u with
    | none => simp [readLetter, hu] at h
    | some letter =>
      by_cases hletter : letter = .n
      · subst hletter
        by_cases hrest : rest.head? = some (unit '(')
        · simp only [readLetter, hu, hrest] at h
          repeat' split at h
          all_goals simp_all
        · have hshown : ¬ ((some shown).isSome ∧ Letter.n ≠ .n) := by simp
          rw [readLetter_of_plain hu hshown hrest] at h
          have hwritten := Letter.ofUnit?_eq_some_iff.mp hu
          obtain rfl := (List.cons.inj hwritten).1
          exact ⟨rest, rfl, hrest, (Except.ok.inj h).symm⟩
      · simp [readLetter, hu, hletter] at h

/-- A letter in front of a parenthesis is read only if it opens the arguments of a map. -/
theorem readLetter_arguments_sound {u : CodeUnit} {letter : Letter} {inner : Text}
    {run : OptionRun} (hu : Letter.ofUnit? u = some letter)
    (h : readLetter counting defaultCapacity none (u :: unit '(' :: inner) = .ok run) :
    ∃ (arguments : MapArguments) (rest : Text),
      u :: unit '(' :: inner = (Token.map (some arguments)).written ++ rest ∧
      run = ⟨(Token.map (some arguments)).option counting defaultCapacity,
        (Token.map (some arguments)).written.length - 1⟩ := by
  simp only [readLetter, hu, List.head?_cons, if_true, List.drop_succ_cons, List.drop_zero] at h
  rw [if_neg (by simp)] at h
  split at h
  · next hclose =>
    split at h
    · next hm =>
      subst hm
      obtain rfl := (List.cons.inj (Letter.ofUnit?_eq_some_iff.mp hu)).1
      obtain ⟨given, later, rfl, hopen⟩ := List.eq_append_cons_of_mem hclose
      rw [takeWhile_arguments hopen] at h
      cases hread : readMapArguments defaultCapacity given with
      | error stop => simp [hread] at h
      | ok request =>
        simp only [hread] at h
        obtain ⟨arguments, rfl, rfl⟩ := (readMapArguments_eq_ok_iff hopen).mp hread
        refine ⟨arguments, later, ?_, ?_⟩
        · simp [Token.written]
        · rw [← Except.ok.inj h]
          simp [Token.option, Token.written]
    · cases h
  · cases h

theorem readLetter_unsigned_sound {text : Text} {run : OptionRun}
    (h : readLetter counting defaultCapacity none text = .ok run) :
    ∃ (token : Token) (rest : Text), text = token.written ++ rest ∧ token.CanPrecede rest ∧
      run = ⟨token.option counting defaultCapacity, token.written.length - 1⟩ := by
  cases text with
  | nil => cases h
  | cons u rest =>
    cases hu : Letter.ofUnit? u with
    | none => simp [readLetter, hu] at h
    | some letter =>
      by_cases hrest : rest.head? = some (unit '(')
      · obtain ⟨inner, rfl⟩ := List.head?_eq_some_iff.mp hrest
        obtain ⟨arguments, later, htext, hrun⟩ := readLetter_arguments_sound hu h
        exact ⟨.map (some arguments), later, htext, fun _ => ⟨arguments, rfl⟩, hrun⟩
      · have hwritten := Letter.ofUnit?_eq_some_iff.mp hu
        rw [readLetter_of_plain hu (by simp) hrest] at h
        refine ⟨letter.token, rest, by rw [hwritten]; rfl, fun hhead => absurd hhead hrest, ?_⟩
        rw [← Except.ok.inj h, hwritten, plainOption_none]
        rfl

/-- An option is read exactly when the text starts with a token, and what follows does not turn it
into another one. -/
theorem readOption_eq_ok_iff {text : Text} {run : OptionRun} :
    readOption counting defaultCapacity text = .ok run ↔
      ∃ (token : Token) (rest : Text), text = token.written ++ rest ∧ token.CanPrecede rest ∧
        run = ⟨token.option counting defaultCapacity, token.written.length - 1⟩ := by
  constructor
  · intro h
    cases text with
    | nil => cases h
    | cons u rest =>
      cases hu : signed? u with
      | none =>
        simp only [readOption, hu] at h
        exact readLetter_unsigned_sound h
      | some shown =>
        obtain rfl := signed?_eq_some_iff.mp hu
        cases hread : readLetter counting defaultCapacity (some shown) rest with
        | error stop => simp [readOption, hu, hread] at h
        | ok letter =>
          obtain ⟨later, rfl, hlater, rfl⟩ := readLetter_signed_sound hread
          simp only [readOption, hu, hread] at h
          exact ⟨.count (some shown), later, rfl, fun hhead => absurd hhead hlater,
            (Except.ok.inj h).symm⟩
  · rintro ⟨token, rest, rfl, hrest, rfl⟩
    exact readOption_written hrest

/-! ## All options -/

theorem Token.written_ne_nil (token : Token) : token.written ≠ [] := by
  rcases token with - | - | - | - | (- | shown) | (- | arguments) <;> simp [Token.written]

theorem Token.length_written_pos (token : Token) : 0 < token.written.length :=
  List.length_pos_iff.mpr token.written_ne_nil

theorem Token.head_written_ne (token : Token) : token.written.head? ≠ some (unit '(') := by
  rcases token with - | - | - | - | (- | shown) | (- | arguments)
  case count.some => cases shown <;> decide
  all_goals simp [Token.written]; try decide

theorem head_flatMap_written_ne (tokens : List Token) :
    (tokens.flatMap Token.written).head? ≠ some (unit '(') := by
  cases tokens with
  | nil => simp
  | cons token tokens =>
    have hhead := token.head_written_ne
    obtain ⟨u, later, hwritten⟩ := List.exists_cons_of_ne_nil token.written_ne_nil
    rw [hwritten] at hhead
    rw [List.flatMap_cons, hwritten]
    exact hhead

/-- The report after one more token. -/
def applyToken (counting : Outcome) (defaultCapacity : Number) (report : ReportRequest)
    (token : Token) : ReportRequest :=
  (token.option counting defaultCapacity).apply report

theorem readOptions_step {report : ReportRequest} {position : Nat} {token : Token} {rest : Text}
    (hrest : token.CanPrecede rest) :
    readOptions counting defaultCapacity report position (token.written ++ rest) =
      readOptions counting defaultCapacity (applyToken counting defaultCapacity report token)
        (position + token.written.length) rest := by
  have hread : readOption counting defaultCapacity (token.written ++ rest) =
      .ok ⟨token.option counting defaultCapacity, token.written.length - 1⟩ :=
    readOption_written hrest
  obtain ⟨u, later, hwritten⟩ := List.exists_cons_of_ne_nil token.written_ne_nil
  rw [hwritten, List.cons_append] at hread ⊢
  rw [readOptions, hread]
  simp only [List.length_cons, Nat.add_sub_cancel, List.drop_left]
  rfl

/-- Options are read exactly when the text is a concatenation of tokens, and all of them are
applied. -/
theorem readOptions_eq_ok_iff {report result : ReportRequest} {position : Nat} {text : Text} :
    readOptions counting defaultCapacity report position text = .ok result ↔
      ∃ tokens : List Token, text = tokens.flatMap Token.written ∧
        result = tokens.foldl (applyToken counting defaultCapacity) report := by
  constructor
  · intro h
    fun_induction readOptions counting defaultCapacity report position text with
    | case1 report position => exact ⟨[], rfl, (Except.ok.inj h).symm⟩
    | case2 report position u rest stop hread => cases h
    | case3 report position u rest run hread ih =>
      obtain ⟨token, later, htext, hlater, rfl⟩ := readOption_eq_ok_iff.mp hread
      obtain ⟨tokens, hrest, hresult⟩ := ih h
      obtain ⟨v, written, hwritten⟩ := List.exists_cons_of_ne_nil token.written_ne_nil
      refine ⟨token :: tokens, ?_, hresult⟩
      rw [List.flatMap_cons, ← hrest, htext]
      rw [hwritten, List.cons_append] at htext
      rw [(List.cons.inj htext).2, hwritten]
      simp
  · rintro ⟨tokens, rfl, rfl⟩
    induction tokens generalizing report position with
    | nil => rw [List.flatMap_nil, readOptions, List.foldl_nil]
    | cons token tokens ih =>
      rw [List.flatMap_cons, List.foldl_cons, readOptions_step]
      · exact ih
      · exact fun hhead => absurd hhead (head_flatMap_written_ne tokens)

/-- One more token changes what it asks for and nothing else. -/
theorem requestOf_concat (tokens : List Token) (token : Token) :
    requestOf counting defaultCapacity (tokens ++ [token]) =
      applyToken counting defaultCapacity (requestOf counting defaultCapacity tokens) token := by
  rcases token with - | - | - | - | sign | (- | arguments)
  case count =>
    cases hshown : sign.getD counting.opposite <;>
      simp [requestOf, applyToken, Token.option, ReportOption.apply, Token.shows,
        Token.mapRequest?, hshown]
  all_goals
    simp [requestOf, applyToken, Token.option, ReportOption.apply, Token.shows,
      Token.mapRequest?]

theorem foldl_applyToken (tokens : List Token) :
    tokens.foldl (applyToken counting defaultCapacity) {} =
      requestOf counting defaultCapacity tokens := by
  induction tokens using List.reverseRecOn with
  | nil => rfl
  | append_singleton tokens token ih =>
    rw [List.foldl_append, List.foldl_cons, List.foldl_nil, ih, requestOf_concat]

/-! ## Whole conditions -/

/-- The text behind a count: the location flag, and the options behind their colon. -/
def locationText (consecutive : Bool) (options : Option Text) : Text :=
  (if consecutive then [unit 's'] else []) ++ options.elim [] (unit ':' :: ·)

theorem readLocation_written (consecutive : Bool) (options : Option Text) (position : Nat) :
    ∃ next, readLocation .cumulative position (locationText consecutive options) =
      .ok (if consecutive then .sequence else .cumulative, next, options.getD []) := by
  have hs : unit 's' ≠ unit ':' := by decide
  cases consecutive <;> cases options <;> simp [locationText, readLocation, hs]

theorem readLocation_sound {location : Location} {position next : Nat} {text rest : Text}
    (h : readLocation .cumulative position text = .ok (location, next, rest)) :
    ∃ (consecutive : Bool) (options : Option Text), text = locationText consecutive options ∧
      location = (if consecutive then .sequence else .cumulative) ∧ rest = options.getD [] := by
  have hbehind : ∀ {position : Nat} {text : Text},
      readLocation .sequence position text = .ok (location, next, rest) →
        location = .sequence ∧ ∃ options : Option Text,
          text = options.elim [] (unit ':' :: ·) ∧ rest = options.getD [] := by
    intro position text h
    cases text with
    | nil =>
      cases h
      exact ⟨rfl, none, rfl, rfl⟩
    | cons u text =>
      rw [readLocation] at h
      split at h
      · next hu =>
        cases h
        exact ⟨rfl, some rest, by rw [hu]; rfl, rfl⟩
      · split at h <;> cases h
  cases text with
  | nil =>
    cases h
    exact ⟨false, none, rfl, rfl, rfl⟩
  | cons u text =>
    rw [readLocation] at h
    split at h
    · next hu =>
      cases h
      exact ⟨false, some rest, by rw [hu]; rfl, rfl, rfl⟩
    · split at h
      · next hu =>
        obtain ⟨hlocation, options, htext, hrest⟩ := hbehind h
        exact ⟨true, options, by rw [hu, htext]; rfl, hlocation, hrest⟩
      · cases h

theorem splitSign_cases (text : Text) :
    ∃ (negative : Bool) (unsigned : Text),
      text = (if negative then [unit '-'] else []) ++ unsigned ∧
      splitSign text =
        (if negative then .failure else .success, if negative then 1 else 0, unsigned) := by
  cases text with
  | nil => exact ⟨false, [], rfl, rfl⟩
  | cons u rest =>
    by_cases hu : u = unit '-'
    · exact ⟨true, rest, by rw [hu]; rfl, by simp [splitSign, hu]⟩
    · exact ⟨false, u :: rest, rfl, by simp [splitSign, hu]⟩

theorem splitSign_digits (negative : Bool) {digits : Text} (rest : Text)
    (hdigits : ∀ u ∈ digits, (digit? u).isSome)
    (hstart : digits = [] → negative = true ∨ rest = []) :
    splitSign ((if negative then [unit '-'] else []) ++ digits ++ rest) =
      (if negative then .failure else .success, if negative then 1 else 0, digits ++ rest) := by
  cases negative with
  | true => rfl
  | false =>
    cases digits with
    | nil =>
      obtain rfl := (hstart rfl).resolve_left Bool.false_ne_true
      rfl
    | cons u digits =>
      have hu : u ≠ unit '-' := by
        rintro rfl
        have hdigit := hdigits (unit '-') (List.mem_cons_self ..)
        exact absurd hdigit (by decide)
      simp [splitSign, hu]

theorem noDigitFirst_locationText (consecutive : Bool) (options : Option Text) :
    NoDigitFirst (locationText consecutive options) := by
  have hs : digit? (unit 's') = none := by decide
  have hcolon : digit? (unit ':') = none := by decide
  cases consecutive <;> cases options <;> simp [locationText, NoDigitFirst, hs, hcolon]

theorem Phrase.writtenTail_eq (phrase : Phrase) :
    phrase.writtenTail =
      locationText phrase.consecutive (phrase.options.map (List.flatMap Token.written)) := by
  unfold Phrase.writtenTail locationText
  cases phrase.options <;> rfl

/-- The count of a text was read, and the text may go on with its location: only the empty text
and texts with a sign get there without a digit. -/
structure CountRead (text : Text) (counting : Outcome) (start : Nat) (count : DigitRun) : Prop where
  digits_eq : ∃ unsigned, splitSign text = (counting, start, unsigned) ∧
    readDigits 0 0 unsigned = .ok count
  begins : start = 0 → count.length = 0 → text = []

/-- The ways in which a whole text is read: each phase may reject it, and the value of the count is
looked at when all of them have passed. -/
inductive ReadAs (defaultCapacity : Number) (text : Text) : Except Stop Condition → Prop
  | countTooLarge {counting : Outcome} {start offset : Nat} {unsigned : Text}
      (hsign : splitSign text = (counting, start, unsigned))
      (hdigits : readDigits 0 0 unsigned = .error offset) :
      ReadAs defaultCapacity text (.error ⟨start + offset, .countTooLarge⟩)
  | unexpectedStart {counting : Outcome} {unsigned : Text} {count : DigitRun} {found : CodeUnit}
      (hsign : splitSign text = (counting, 0, unsigned))
      (hdigits : readDigits 0 0 unsigned = .ok count) (hlength : count.length = 0)
      (hfound : text.head? = some found) :
      ReadAs defaultCapacity text (.error ⟨0, .unexpectedStart found⟩)
  | location {counting : Outcome} {start : Nat} {count : DigitRun} {stop : Stop}
      (hcount : CountRead text counting start count)
      (hlocation : readLocation .cumulative (start + count.length) count.rest = .error stop) :
      ReadAs defaultCapacity text (.error stop)
  | options {counting : Outcome} {start position : Nat} {count : DigitRun} {location : Location}
      {rest : Text} {stop : Stop} (hcount : CountRead text counting start count)
      (hlocation : readLocation .cumulative (start + count.length) count.rest =
        .ok (location, position, rest))
      (hoptions : readOptions counting defaultCapacity {} position rest = .error stop) :
      ReadAs defaultCapacity text (.error stop)
  | complete {counting : Outcome} {start position : Nat} {count : DigitRun} {location : Location}
      {rest : Text} {report : ReportRequest} (hcount : CountRead text counting start count)
      (hlocation : readLocation .cumulative (start + count.length) count.rest =
        .ok (location, position, rest))
      (hoptions : readOptions counting defaultCapacity {} position rest = .ok report) :
      ReadAs defaultCapacity text
        (if count.value = 0 then .error ⟨0, .zeroCount⟩
        else .ok ⟨text, count.value, counting, location, report⟩)

theorem CountRead.no_unexpectedStart {text : Text} {counting : Outcome} {start : Nat}
    {count : DigitRun} (h : CountRead text counting start count) :
    (if start = 0 ∧ count.length = 0 then text.head? else none) = none := by
  split
  · next hnone =>
    rw [h.begins hnone.1 hnone.2]
    rfl
  · rfl

theorem read_readAs (defaultCapacity : Number) (text : Text) :
    ReadAs defaultCapacity text (read defaultCapacity text) := by
  rcases hsign : splitSign text with ⟨counting, start, unsigned⟩
  rw [read, hsign]
  dsimp only
  cases hdigits : readDigits 0 0 unsigned with
  | error offset => exact .countTooLarge hsign hdigits
  | ok count =>
    dsimp only
    split
    · next found hfound =>
      split at hfound
      · next hnone =>
        obtain ⟨rfl, hlength⟩ := hnone
        exact .unexpectedStart hsign hdigits hlength hfound
      · cases hfound
    · next hbegins =>
      have hcount : CountRead text counting start count := by
        refine ⟨⟨unsigned, hsign, hdigits⟩, fun hstart hlength => ?_⟩
        rwa [if_pos ⟨hstart, hlength⟩, List.head?_eq_none_iff] at hbegins
      cases hlocation : readLocation .cumulative (start + count.length) count.rest with
      | error stop => exact .location hcount hlocation
      | ok found =>
        obtain ⟨location, position, rest⟩ := found
        dsimp only
        cases hoptions : readOptions counting defaultCapacity {} position rest with
        | error stop => exact .options hcount hlocation hoptions
        | ok report => exact .complete hcount hlocation hoptions

/-- **A text is read in one way.** -/
theorem read_eq_iff {text : Text} {result : Except Stop Condition} :
    read defaultCapacity text = result ↔ ReadAs defaultCapacity text result := by
  constructor
  · rintro rfl
    exact read_readAs defaultCapacity text
  · intro h
    cases h with
    | countTooLarge hsign hdigits =>
      rw [read, hsign]
      simp only [hdigits]
    | unexpectedStart hsign hdigits hlength hfound =>
      rw [read, hsign]
      simp only [hdigits, hlength, and_self, if_true, hfound]
    | location hcount hlocation =>
      obtain ⟨unsigned, hsign, hdigits⟩ := hcount.digits_eq
      rw [read, hsign]
      simp only [hdigits, hcount.no_unexpectedStart, hlocation]
    | options hcount hlocation hoptions =>
      obtain ⟨unsigned, hsign, hdigits⟩ := hcount.digits_eq
      rw [read, hsign]
      simp only [hdigits, hcount.no_unexpectedStart, hlocation, hoptions]
    | complete hcount hlocation hoptions =>
      obtain ⟨unsigned, hsign, hdigits⟩ := hcount.digits_eq
      rw [read, hsign]
      simp only [hdigits, hcount.no_unexpectedStart, hlocation, hoptions]

/-- A phrase whose count is written with any digits is read to its end, and the value of the digits
decides. -/
theorem read_writtenWith (phrase : Phrase) {digits : Text}
    (hdigits : ∀ u ∈ digits, (digit? u).isSome) (hle : decimalValue digits ≤ Number.maxCount)
    (hstart : digits = [] → phrase.negative = true ∨ phrase.writtenWith digits = []) :
    read defaultCapacity (phrase.writtenWith digits) =
      if decimalValue digits = 0 then .error ⟨0, .zeroCount⟩
      else .ok ⟨phrase.writtenWith digits, decimalValue digits, phrase.counting, phrase.location,
        requestOf phrase.counting defaultCapacity phrase.tokens⟩ := by
  have htail := phrase.writtenTail_eq
  have hread : readDigits 0 0 (digits ++ phrase.writtenTail) =
      .ok ⟨decimalValue digits, digits.length, phrase.writtenTail⟩ := by
    rw [htail]
    exact readDigits_eq_ok_iff.mpr
      ⟨digits, rfl, hdigits, noDigitFirst_locationText _ _, rfl, rfl, hle⟩
  have hcount : CountRead (phrase.writtenWith digits) phrase.counting
      (if phrase.negative then 1 else 0)
      ⟨decimalValue digits, digits.length, phrase.writtenTail⟩ := by
    refine ⟨⟨_, splitSign_digits phrase.negative phrase.writtenTail hdigits fun hnil => ?_, hread⟩,
      fun hunsigned hlength => ?_⟩
    · exact (hstart hnil).imp_right fun hempty => (List.append_eq_nil_iff.mp hempty).2
    · refine (hstart (List.length_eq_zero_iff.mp hlength)).resolve_left fun hnegative => ?_
      rw [hnegative] at hunsigned
      cases hunsigned
  obtain ⟨next, hlocation⟩ := readLocation_written phrase.consecutive
    (phrase.options.map (List.flatMap Token.written))
    ((if phrase.negative then 1 else 0) + digits.length)
  have htokens : (phrase.options.map (List.flatMap Token.written)).getD [] =
      phrase.tokens.flatMap Token.written := by
    unfold Phrase.tokens
    cases phrase.options <;> rfl
  have hoptions : readOptions phrase.counting defaultCapacity {} next
      (phrase.tokens.flatMap Token.written) =
        .ok (requestOf phrase.counting defaultCapacity phrase.tokens) :=
    readOptions_eq_ok_iff.mpr ⟨phrase.tokens, rfl, (foldl_applyToken phrase.tokens).symm⟩
  rw [htokens, ← htail] at hlocation
  exact read_eq_iff.mpr (.complete hcount hlocation hoptions)

theorem read_written (phrase : Phrase) :
    read defaultCapacity phrase.written = .ok (phrase.condition defaultCapacity) := by
  have hvalue : decimalValue phrase.count.digits ≠ 0 := Nat.ne_of_gt phrase.count.value_pos
  have hread : read defaultCapacity (phrase.writtenWith phrase.count.digits) = _ :=
    read_writtenWith phrase phrase.count.all_digits phrase.count.value_le
      fun hnil => absurd hnil phrase.count.digits_ne_nil
  rw [if_neg hvalue] at hread
  exact hread

/-- The text behind a colon, once it is known to be a concatenation of tokens, as the options of a
phrase. -/
theorem exists_options {options : Option Text} {rest : Text} {tokens : List Token}
    (hrest : rest = options.getD []) (htokens : rest = tokens.flatMap Token.written) :
    ∃ parts : Option (List Token), parts.getD [] = tokens ∧
      parts.elim [] (fun tokens => unit ':' :: tokens.flatMap Token.written) =
        options.elim [] (unit ':' :: ·) := by
  cases options with
  | none =>
    refine ⟨none, ?_, rfl⟩
    cases tokens with
    | nil => rfl
    | cons token tokens =>
      rw [hrest, Option.getD_none, List.flatMap_cons] at htokens
      exact absurd (List.append_eq_nil_iff.mp htokens.symm).1 token.written_ne_nil
  | some text =>
    refine ⟨some tokens, rfl, ?_⟩
    rw [Option.elim_some, Option.elim_some, ← htokens, hrest, Option.getD_some]

/-- A text that is read to its end is a phrase, up to the digits in the place of the count. -/
theorem exists_writtenWith {text rest : Text} {counting : Outcome} {start position : Nat}
    {count : DigitRun} {location : Location} {report : ReportRequest}
    (hcount : CountRead text counting start count)
    (hlocation : readLocation .cumulative (start + count.length) count.rest =
      .ok (location, position, rest))
    (hoptions : readOptions counting defaultCapacity {} position rest = .ok report) :
    ∃ (phrase : Phrase) (digits : Text), phrase.writtenWith digits = text ∧
      (∀ u ∈ digits, (digit? u).isSome) ∧ count.value = decimalValue digits ∧
      decimalValue digits ≤ Number.maxCount ∧
      (digits = [] → phrase.negative = true ∨ text = []) ∧ counting = phrase.counting ∧
      location = phrase.location ∧
      report = requestOf phrase.counting defaultCapacity phrase.tokens := by
  obtain ⟨unsigned, hsign, hread⟩ := hcount.digits_eq
  obtain ⟨negative, given, htext, hgiven⟩ := splitSign_cases text
  obtain ⟨rfl, rfl, rfl⟩ : (if negative then Outcome.failure else .success) = counting ∧
      (if negative then 1 else 0) = start ∧ given = unsigned := by
    simpa using hgiven.symm.trans hsign
  obtain ⟨digits, rfl, hdigits, -, hval, hlen, hle⟩ := readDigits_eq_ok_iff.mp hread
  obtain ⟨consecutive, options, hrest, rfl, hopts⟩ := readLocation_sound hlocation
  obtain ⟨tokens, htokens, rfl⟩ := readOptions_eq_ok_iff.mp hoptions
  obtain ⟨parts, rfl, htail⟩ := exists_options hopts htokens
  -- The parts that were read, put together again. Their count is not looked at.
  let phrase : Phrase :=
    ⟨negative, .single (unit '1') (by decide) (by decide) (by decide), consecutive, parts⟩
  refine ⟨phrase, digits, ?_, hdigits, hval, hval ▸ hle, ?_, rfl, rfl, foldl_applyToken _⟩
  · show _ ++ digits ++ (_ ++ parts.elim _ _) = text
    rw [htail, htext, hrest, List.append_assoc]
    rfl
  · rintro rfl
    cases negative with
    | true => exact .inl rfl
    | false => exact .inr (hcount.begins rfl hlen)

theorem read_sound {text : Text} {condition : Condition}
    (h : read defaultCapacity text = .ok condition) :
    ∃ phrase : Phrase, phrase.written = text ∧ phrase.condition defaultCapacity = condition := by
  generalize hresult : Except.ok condition = result at h
  cases read_eq_iff.mp h with
  | countTooLarge hsign hdigits => cases hresult
  | unexpectedStart hsign hdigits hlength hfound => cases hresult
  | location hcount hlocation => cases hresult
  | options hcount hlocation hoptions => cases hresult
  | complete hcount hlocation hoptions =>
    split at hresult
    · cases hresult
    next hzero =>
      obtain ⟨phrase, digits, rfl, hdigits, hval, hle, -, rfl, rfl, rfl⟩ :=
        exists_writtenWith hcount hlocation hoptions
      rw [hval] at hzero hresult
      refine ⟨{ phrase with count := ⟨digits, hdigits, Nat.pos_of_ne_zero hzero, hle⟩ }, rfl, ?_⟩
      rw [Except.ok.inj hresult]
      rfl

theorem parse_eq_ok_iff_read {text : Text} {condition : Condition} :
    parse defaultCapacity text = .ok condition ↔ read defaultCapacity text = .ok condition := by
  unfold parse
  cases read defaultCapacity text <;> simp [Except.mapError]

/-- A written phrase is parsed. -/
theorem parse_written (phrase : Phrase) :
    parse defaultCapacity phrase.written = .ok (phrase.condition defaultCapacity) :=
  parse_eq_ok_iff_read.mpr (read_written phrase)

/-- A condition that was parsed is the meaning of a phrase. -/
theorem parse_sound {text : Text} {condition : Condition}
    (h : parse defaultCapacity text = .ok condition) :
    ∃ phrase : Phrase, phrase.written = text ∧ phrase.condition defaultCapacity = condition :=
  read_sound (parse_eq_ok_iff_read.mp h)

end Probing.Condition
