import Probing.Text.Basic

/-!
# Well-formed texts

A text is well-formed if its units spell whole characters: each is a character of its own, or the
first half of a surrogate pair with the second half behind it. These are the texts that strings
have. A unit that is no half of a pair separates what stands on its two sides, so that a text with
such a unit in it is well-formed exactly if both sides are.

## Main definitions

* `CodeUnit.isWhole`: a unit that is a character of its own
* `Text.IsCharacter`: one character
* `Text.WellFormed`: a text of whole characters

## Main results

* `Text.wellFormed_iff_exists_string`: the well-formed texts are those of strings
* `Text.wellFormed_append_cons_iff`: whole units separate
* `Text.wellFormed_two_iff`: two units are two characters, or the halves of one
-/

namespace Probing

/-- A unit that is a character of its own. -/
def CodeUnit.isWhole (u : CodeUnit) : Bool :=
  !u.isHighSurrogate && !u.isLowSurrogate

theorem CodeUnit.isWhole_iff {u : CodeUnit} :
    u.isWhole = true ↔ u.isHighSurrogate = false ∧ u.isLowSurrogate = false := by
  simp [isWhole]

theorem CodeUnit.isHighSurrogate_iff {u : CodeUnit} :
    u.isHighSurrogate = true ↔ 0xD800 ≤ u.toNat ∧ u.toNat ≤ 0xDBFF := by
  simp only [isHighSurrogate, Bool.and_eq_true, decide_eq_true_iff, UInt16.le_iff_toNat_le]
  exact Iff.rfl

theorem CodeUnit.isLowSurrogate_iff {u : CodeUnit} :
    u.isLowSurrogate = true ↔ 0xDC00 ≤ u.toNat ∧ u.toNat ≤ 0xDFFF := by
  simp only [isLowSurrogate, Bool.and_eq_true, decide_eq_true_iff, UInt16.le_iff_toNat_le]
  exact Iff.rfl

theorem CodeUnit.isWhole_iff_toNat {u : CodeUnit} :
    u.isWhole = true ↔ u.toNat < 0xD800 ∨ 0xDFFF < u.toNat := by
  rw [isWhole_iff, ← Bool.not_eq_true, ← Bool.not_eq_true, isHighSurrogate_iff,
    isLowSurrogate_iff]
  omega

theorem CodeUnit.not_high_and_low {u : CodeUnit} (hhigh : u.isHighSurrogate = true)
    (hlow : u.isLowSurrogate = true) : False := by
  rw [isHighSurrogate_iff] at hhigh
  rw [isLowSurrogate_iff] at hlow
  omega

namespace Text

/-! ## Characters -/

/-- One character: a unit of its own or a surrogate pair. -/
inductive IsCharacter : Text → Prop
  | single {u : CodeUnit} (whole : u.isWhole = true) : IsCharacter [u]
  | pair {high low : CodeUnit} (high_eq : high.isHighSurrogate = true)
      (low_eq : low.isLowSurrogate = true) : IsCharacter [high, low]

/-- A text of whole characters. -/
inductive WellFormed : Text → Prop
  | nil : WellFormed []
  | single {u : CodeUnit} {rest : Text} (whole : u.isWhole = true) (wellFormed : WellFormed rest) :
      WellFormed (u :: rest)
  | pair {high low : CodeUnit} {rest : Text} (high_eq : high.isHighSurrogate = true)
      (low_eq : low.isLowSurrogate = true) (wellFormed : WellFormed rest) :
      WellFormed (high :: low :: rest)

theorem IsCharacter.append {character rest : Text} (h : IsCharacter character)
    (hrest : WellFormed rest) : WellFormed (character ++ rest) := by
  cases h with
  | single whole => exact .single whole hrest
  | pair high_eq low_eq => exact .pair high_eq low_eq hrest

theorem isCharacter_singleton_iff {u : CodeUnit} : IsCharacter [u] ↔ u.isWhole = true := by
  constructor
  · intro h
    cases h with
    | single whole => exact whole
  · exact .single

variable {s t : Text} {u high low : CodeUnit}

/-! ## Taking texts apart -/

theorem wellFormed_cons_iff (hu : u.isWhole = true) : WellFormed (u :: t) ↔ WellFormed t := by
  obtain ⟨hhigh, -⟩ := CodeUnit.isWhole_iff.mp hu
  constructor
  · intro h
    cases h with
    | single _ wellFormed => exact wellFormed
    | pair high_eq => exact Bool.noConfusion (hhigh.symm.trans high_eq)
  · exact .single hu

theorem wellFormed_pair_iff (hhigh : high.isHighSurrogate = true)
    (hlow : low.isLowSurrogate = true) : WellFormed (high :: low :: t) ↔ WellFormed t := by
  constructor
  · intro h
    cases h with
    | single whole => exact Bool.noConfusion ((CodeUnit.isWhole_iff.mp whole).1.symm.trans hhigh)
    | pair _ _ wellFormed => exact wellFormed
  · exact .pair hhigh hlow

/-- A second half has no place at the start of a character. -/
theorem not_wellFormed_low (hlow : low.isLowSurrogate = true) : ¬ WellFormed (low :: t) := by
  intro h
  cases h with
  | single whole => exact Bool.noConfusion ((CodeUnit.isWhole_iff.mp whole).2.symm.trans hlow)
  | pair high_eq => exact CodeUnit.not_high_and_low high_eq hlow

/-- A first half has its second one behind it. -/
theorem WellFormed.exists_low (hhigh : high.isHighSurrogate = true)
    (h : WellFormed (high :: t)) : ∃ low rest, t = low :: rest ∧ low.isLowSurrogate = true := by
  cases h with
  | single whole => exact Bool.noConfusion ((CodeUnit.isWhole_iff.mp whole).1.symm.trans hhigh)
  | pair _ low_eq => exact ⟨_, _, rfl, low_eq⟩

theorem WellFormed.append (hs : WellFormed s) (ht : WellFormed t) : WellFormed (s ++ t) := by
  induction hs with
  | nil => exact ht
  | single whole _ ih => exact .single whole ih
  | pair high_eq low_eq _ ih => exact .pair high_eq low_eq ih

/-- Behind whole characters a text starts afresh. -/
theorem wellFormed_append_iff (hs : WellFormed s) : WellFormed (s ++ t) ↔ WellFormed t := by
  induction hs with
  | nil => exact Iff.rfl
  | single whole _ ih => exact (wellFormed_cons_iff whole).trans ih
  | pair high_eq low_eq _ ih => exact (wellFormed_pair_iff high_eq low_eq).trans ih

/-- What stands in front of a whole unit ends with a character. -/
theorem WellFormed.of_append_cons {s : Text} (hu : u.isWhole = true)
    (h : WellFormed (s ++ u :: t)) : WellFormed s := by
  match s, h with
  | [], _ => exact .nil
  | [v], h =>
    cases h with
    | single whole _ => exact .single whole .nil
    | pair high_eq low_eq =>
      exact Bool.noConfusion ((CodeUnit.isWhole_iff.mp hu).2.symm.trans low_eq)
  | v :: w :: s, h =>
    cases h with
    | single whole wellFormed => exact .single whole (wellFormed.of_append_cons hu)
    | pair high_eq low_eq wellFormed => exact .pair high_eq low_eq (wellFormed.of_append_cons hu)

/-- **Whole units separate**: a text with one in it is well-formed if both sides are. -/
theorem wellFormed_append_cons_iff (hu : u.isWhole = true) :
    WellFormed (s ++ u :: t) ↔ WellFormed s ∧ WellFormed t := by
  constructor
  · intro h
    have hs := h.of_append_cons hu
    exact ⟨hs, (wellFormed_cons_iff hu).mp ((wellFormed_append_iff hs).mp h)⟩
  · rintro ⟨hs, ht⟩
    exact hs.append (.single hu ht)

theorem wellFormed_of_forall (h : ∀ v ∈ t, v.isWhole = true) : WellFormed t := by
  induction t with
  | nil => exact .nil
  | cons v t ih =>
    rw [List.forall_mem_cons] at h
    exact .single h.1 (ih h.2)

/-- Whole units at the end do no harm. -/
theorem wellFormed_append_iff_of_forall (h : ∀ v ∈ t, v.isWhole = true) :
    WellFormed (s ++ t) ↔ WellFormed s := by
  cases t with
  | nil => rw [List.append_nil]
  | cons v t =>
    rw [List.forall_mem_cons] at h
    rw [wellFormed_append_cons_iff h.1]
    exact and_iff_left (wellFormed_of_forall h.2)

/-- **Two units are two characters, or the halves of one.** -/
theorem wellFormed_two_iff {first second : CodeUnit} :
    WellFormed [first, second] ↔
      (first.isWhole = true ∧ second.isWhole = true) ∨
        (first.isHighSurrogate = true ∧ second.isLowSurrogate = true) := by
  constructor
  · intro h
    cases h with
    | single whole wellFormed =>
      cases wellFormed with
      | single whole' => exact .inl ⟨whole, whole'⟩
    | pair high_eq low_eq => exact .inr ⟨high_eq, low_eq⟩
  · rintro (⟨hfirst, hsecond⟩ | ⟨hhigh, hlow⟩)
    · exact .single hfirst (.single hsecond .nil)
    · exact .pair hhigh hlow .nil

/-- Joined with a whole unit, parts are well-formed if each of them is. -/
theorem wellFormed_join_iff (hu : u.isWhole = true) {parts : List Text} :
    WellFormed (join [u] parts) ↔ ∀ part ∈ parts, WellFormed part := by
  unfold join
  induction parts with
  | nil => simp [WellFormed.nil]
  | cons part parts ih =>
    cases parts with
    | nil => simp
    | cons next parts =>
      rw [List.intercalate_cons_cons, List.append_assoc, List.singleton_append,
        wellFormed_append_cons_iff hu, ih]
      exact List.forall_mem_cons.symm

/-! ## Strings -/

theorem toNat_toUInt16 {n : Nat} (h : n < 0x10000) : n.toUInt16.toNat = n := by
  rw [Nat.toUInt16_eq, UInt16.toNat_ofNat']
  exact Nat.mod_eq_of_lt h

/-- A code point is spelled as one character. -/
theorem isCharacter_ofCodePoint {n : Nat} (h : n.isValidChar) : IsCharacter (ofCodePoint n) := by
  have hvalid : n < 0xD800 ∨ 0xDFFF < n ∧ n < 0x110000 := h
  unfold ofCodePoint
  split
  · next hn =>
    refine .single (CodeUnit.isWhole_iff_toNat.mpr ?_)
    rw [toNat_toUInt16 hn]
    omega
  · refine .pair (CodeUnit.isHighSurrogate_iff.mpr ?_) (CodeUnit.isLowSurrogate_iff.mpr ?_)
    · rw [toNat_toUInt16 (by omega)]
      omega
    · rw [toNat_toUInt16 (by omega)]
      omega

/-- Every character is that of a code point. -/
theorem IsCharacter.exists_codePoint {character : Text} (h : IsCharacter character) :
    ∃ n : Nat, n.isValidChar ∧ ofCodePoint n = character := by
  cases h with
  | @single u whole =>
    have hrange := CodeUnit.isWhole_iff_toNat.mp whole
    have hlt : u.toNat < 0x10000 := u.toNat_lt
    have hvalid : u.toNat < 0xD800 ∨ 0xDFFF < u.toNat ∧ u.toNat < 0x110000 := by omega
    refine ⟨u.toNat, hvalid, ?_⟩
    rw [ofCodePoint, if_pos hlt, Nat.toUInt16_eq, UInt16.ofNat_toNat]
  | @pair high low high_eq low_eq =>
    have hhigh := CodeUnit.isHighSurrogate_iff.mp high_eq
    have hlow := CodeUnit.isLowSurrogate_iff.mp low_eq
    refine ⟨0x10000 + (high.toNat - 0xD800) * 0x400 + (low.toNat - 0xDC00), .inr (by omega), ?_⟩
    have hfirst : 0xD800 + (0x10000 + (high.toNat - 0xD800) * 0x400 + (low.toNat - 0xDC00) -
        0x10000) / 0x400 = high.toNat := by omega
    have hsecond : 0xDC00 + (0x10000 + (high.toNat - 0xD800) * 0x400 + (low.toNat - 0xDC00) -
        0x10000) % 0x400 = low.toNat := by omega
    rw [ofCodePoint, if_neg (by omega), hfirst, hsecond, Nat.toUInt16_eq, Nat.toUInt16_eq,
      UInt16.ofNat_toNat, UInt16.ofNat_toNat]

theorem IsCharacter.exists_char {character : Text} (h : IsCharacter character) :
    ∃ c : Char, ofCodePoint c.toNat = character := by
  obtain ⟨n, hvalid, hn⟩ := h.exists_codePoint
  exact ⟨Char.ofNatAux n hvalid, hn⟩

theorem wellFormed_ofString (string : String) : WellFormed (ofString string) := by
  unfold ofString
  induction string.toList with
  | nil => exact .nil
  | cons c rest ih =>
    rw [List.flatMap_cons]
    exact (isCharacter_ofCodePoint c.valid).append ih

theorem WellFormed.exists_chars (h : WellFormed t) :
    ∃ chars : List Char, chars.flatMap (fun c => ofCodePoint c.toNat) = t := by
  induction h with
  | nil => exact ⟨[], rfl⟩
  | single whole _ ih =>
    obtain ⟨chars, rfl⟩ := ih
    obtain ⟨c, hc⟩ := (IsCharacter.single whole).exists_char
    exact ⟨c :: chars, by rw [List.flatMap_cons, hc]; rfl⟩
  | pair high_eq low_eq _ ih =>
    obtain ⟨chars, rfl⟩ := ih
    obtain ⟨c, hc⟩ := (IsCharacter.pair high_eq low_eq).exists_char
    exact ⟨c :: chars, by rw [List.flatMap_cons, hc]; rfl⟩

/-- **The well-formed texts are those of strings.** -/
theorem wellFormed_iff_exists_string : WellFormed t ↔ ∃ string : String, ofString string = t := by
  constructor
  · intro h
    obtain ⟨chars, rfl⟩ := h.exists_chars
    exact ⟨String.ofList chars, by rw [ofString, String.toList_ofList]⟩
  · rintro ⟨string, rfl⟩
    exact wellFormed_ofString string

end Text

end Probing
