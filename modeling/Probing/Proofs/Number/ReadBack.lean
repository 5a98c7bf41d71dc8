import Probing.Proofs.Number.Decimal
import Probing.Proofs.Number.Rounding

/-!
# Counts read back

A natural number that is a double is written so that it reads back as the same number, however many
digits it has and whether or not they stand in front of an exponent. No two such numbers are
therefore written alike.

## Main definitions

* `Number.IsDouble`: a finite number is a double if it is its own rounding
* `Number.IsCount`: the natural numbers among the doubles

## Main results

* `Number.shortest_natCast`: the shortest digits of a count are rounded to it
* `Number.decimal?_ofNat`, `Number.decimal?_exponential`: the two ways to write a count are read
* `Number.ofText_text`, `Number.text_inj`: a count reads back, and no two are written alike
-/

namespace Probing

/-! ## Decimal digits -/

namespace Text

theorem ofNat_ne_nil (n : Nat) : ofNat n ≠ [] := by
  unfold ofNat
  split <;> simp

/-- A number is written with a first digit. -/
theorem exists_ofNat_eq_cons (n : Nat) :
    ∃ first rest, ofNat n = first :: rest ∧ (digit? first).isSome := by
  obtain ⟨first, rest, hcons⟩ := List.exists_cons_of_ne_nil (ofNat_ne_nil n)
  exact ⟨first, rest, hcons, isSome_digit?_of_mem_ofNat n first (hcons ▸ List.mem_cons_self)⟩

/-- A positive number reaches the power of ten of its first digit. -/
theorem exists_length_ofNat {n : Nat} (hn : 0 < n) :
    ∃ places, (ofNat n).length = places + 1 ∧ 10 ^ places ≤ n := by
  fun_induction ofNat n with
  | case1 n hsmall => exact ⟨0, rfl, hn⟩
  | case2 n hlarge ih =>
    obtain ⟨places, hplaces, hpow⟩ := ih (Nat.div_pos (Nat.le_of_not_lt hlarge) (by decide))
    refine ⟨places + 1, by simp [hplaces], ?_⟩
    rw [Nat.pow_succ]
    omega

/-- Zeros behind the digits of a positive number are a power of ten. -/
theorem ofNat_mul_ten_pow {s : Nat} (hs : 0 < s) (zeros : Nat) :
    ofNat (s * 10 ^ zeros) = ofNat s ++ List.replicate zeros (unit '0') := by
  induction zeros with
  | zero => simp
  | succ zeros ih =>
    have hpos : 0 < s * 10 ^ zeros := Nat.mul_pos hs (Nat.pow_pos (by decide))
    have hlarge : ¬ s * 10 ^ zeros * 10 < 10 := by omega
    rw [Nat.pow_succ, ← Nat.mul_assoc, ofNat, if_neg hlarge, Nat.mul_div_cancel _ (by decide),
      Nat.mul_mod_left, ih, List.append_assoc, List.replicate_succ']
    rfl

end Text

namespace Number

/-! ## The shortest digits -/

theorem exists_stripZeros_mul (m : Nat) : ∃ zeros, stripZeros m * 10 ^ zeros = m := by
  fun_induction stripZeros m with
  | case1 m h ih =>
    obtain ⟨zeros, hzeros⟩ := ih
    refine ⟨zeros + 1, ?_⟩
    rw [Nat.pow_succ, ← Nat.mul_assoc, hzeros]
    omega
  | case2 m h => exact ⟨0, Nat.mul_one m⟩

/-- The point of a natural number stands behind its last digit. -/
theorem decimalPoint_natCast {n : Nat} (hn : 0 < n) :
    decimalPoint n 1 = ((Text.ofNat n).length : Int) := by
  obtain ⟨places, hplaces, hreached⟩ := Text.exists_length_ofNat hn
  have hone : (Text.ofNat 1).length = 1 := by
    rw [Text.ofNat]
    rfl
  unfold decimalPoint
  simp [hone, hplaces, hreached]

theorem halfEven_one (n : Nat) : halfEven n 1 = n := by
  simp [halfEven, Nat.mod_one]

theorem ofDecimal_natCast (m e : Nat) : ofDecimal m e = ((m * 10 ^ e : Nat) : Rat) := by
  simp [ofDecimal]

/-- A neighbour with fewer places than the digits of a number reads back, and is not below the
number. -/
theorem neighbour?_natCast {n m point places : Nat} (hplaces : places ≤ point)
    (h : neighbour? n 1 point places = some m) :
    n / 10 ^ (point - places) ≤ m ∧
      roundRat? ((m * 10 ^ (point - places) : Nat) : Rat) = some (n : Rat) := by
  obtain ⟨e, rfl⟩ := Nat.exists_eq_add_of_le hplaces
  have hexponent : ((places + e : Nat) : Int) - places = (e : Nat) := by omega
  have hnumber : mkRat (n : Int) 1 = (n : Rat) := by simp [Rat.mkRat_one]
  rw [Nat.add_sub_cancel_left]
  unfold neighbour? at h
  simp only [hexponent, Int.natCast_nonneg, if_true, Int.toNat_natCast, Nat.one_mul,
    ofDecimal_natCast, hnumber, beq_iff_eq] at h
  have hfloor : n / Nat.pow 10 e ≤
      if halfEven n (Nat.pow 10 e) = n / Nat.pow 10 e then n / Nat.pow 10 e + 1
      else n / Nat.pow 10 e := by
    split <;> omega
  generalize (if halfEven n (Nat.pow 10 e) = n / Nat.pow 10 e then n / Nat.pow 10 e + 1
    else n / Nat.pow 10 e) = other at h hfloor
  split at h
  · next hnearest =>
    obtain rfl := Option.some.inj h
    exact ⟨div_le_halfEven _ _, hnearest⟩
  · split at h
    · next hother =>
      obtain rfl := Option.some.inj h
      exact ⟨hfloor, hother⟩
    · cases h

/-- All places of a double that is a natural number read back. -/
theorem neighbour?_self {n : Nat} (hround : roundRat? (n : Rat) = some (n : Rat)) (point : Nat) :
    neighbour? n 1 point point = some n := by
  have hnumber : mkRat (n : Int) 1 = (n : Rat) := by simp [Rat.mkRat_one]
  have hdecimal : ofDecimal n 0 = (n : Rat) := by simp [ofDecimal]
  simp [neighbour?, halfEven_one, hnumber, hdecimal, hround]

/-- The search for the digits of a double that is a natural number ends at some neighbour. -/
theorem searchDigits_natCast {n : Nat} (hround : roundRat? (n : Rat) = some (n : Rat))
    {point : Nat} (fuel : Nat) :
    ∀ {places : Nat}, places ≤ point → point < places + fuel →
      ∃ m, ∃ found ≤ point, places ≤ found ∧ neighbour? n 1 point found = some m ∧
        searchDigits n 1 point fuel places =
          ⟨stripZeros m, point + (((Text.ofNat m).length : Int) - found)⟩ := by
  induction fuel with
  | zero =>
    intro places hle hlt
    omega
  | succ fuel ih =>
    intro places hle hlt
    unfold searchDigits
    cases hneighbour : neighbour? n 1 point places with
    | some m => exact ⟨m, places, hle, Nat.le_refl _, hneighbour, rfl⟩
    | none =>
      have hne : places ≠ point := by
        rintro rfl
        cases hneighbour.symm.trans (neighbour?_self hround places)
      obtain ⟨m, found, hfound, hplaces, hm, hdigits⟩ :=
        @ih (places + 1) (by omega) (by omega)
      exact ⟨m, found, hfound, by omega, hm, hdigits⟩

/-- **The shortest digits of a count** spell a positive number that is rounded to the count when
zeros are put behind it. -/
theorem shortest_natCast {n : Nat} (hn : 0 < n) (hround : roundRat? (n : Rat) = some (n : Rat)) :
    ∃ s zeros : Nat, 0 < s ∧
      shortest n 1 = ⟨s, ((Text.ofNat s).length + zeros : Nat)⟩ ∧
      roundRat? ((s * 10 ^ zeros : Nat) : Rat) = some (n : Rat) := by
  obtain ⟨places, hlast, hpow⟩ := Text.exists_length_ofNat hn
  rw [shortest, decimalPoint_natCast hn, Int.toNat_natCast, hlast]
  obtain ⟨m, found, hfound, hfirst, hm, hdigits⟩ :=
    searchDigits_natCast hround (17 + (places + 1)) (Nat.le_add_left 1 places) (by omega)
  obtain ⟨hle, hreads⟩ := neighbour?_natCast hfound hm
  obtain ⟨stripped, hstripped⟩ := exists_stripZeros_mul m
  have hm0 : 0 < m := by
    have hscale : 10 ^ (places + 1 - found) ≤ 10 ^ places :=
      Nat.pow_le_pow_right (by decide) (by omega)
    exact (Nat.div_pos (hscale.trans hpow) (Nat.pow_pos (by decide))).trans_le hle
  have hs : 0 < stripZeros m := by
    refine Nat.pos_of_ne_zero fun hzero => ?_
    rw [hzero, Nat.zero_mul] at hstripped
    omega
  have hlength : (Text.ofNat m).length = (Text.ofNat (stripZeros m)).length + stripped := by
    conv_lhs => rw [← hstripped, Text.ofNat_mul_ten_pow hs]
    rw [List.length_append, List.length_replicate]
  refine ⟨stripZeros m, stripped + (places + 1 - found), hs, ?_, ?_⟩
  · rw [hdigits, hlength]
    congr 1
    omega
  · rwa [Nat.pow_add, ← Nat.mul_assoc, hstripped]

/-! ## Notations -/

/-- Digits are written out as long as the number has at most 21 of them. -/
theorem Digits.text_positional {s zeros : Nat} (hs : 0 < s)
    (h : (Text.ofNat s).length + zeros ≤ 21) :
    Digits.text ⟨s, ((Text.ofNat s).length + zeros : Nat)⟩ = Text.ofNat (s * 10 ^ zeros) := by
  have hzeros : (((Text.ofNat s).length + zeros : Nat) - (Text.ofNat s).length : Int).toNat =
      zeros := by omega
  unfold Digits.text
  dsimp only
  rw [if_pos ⟨by omega, by omega⟩, hzeros, Text.ofNat_mul_ten_pow hs]

/-- Digits are written with an exponent when the number has more than 21 of them. -/
theorem Digits.text_exponential {s zeros : Nat} {first : CodeUnit} {more : Text}
    (hs : Text.ofNat s = first :: more) (h : 21 < more.length + 1 + zeros) :
    Digits.text ⟨s, ((Text.ofNat s).length + zeros : Nat)⟩ =
      first :: (if more = [] then [] else unit '.' :: more) ++
        unit 'e' :: unit '+' :: Text.ofNat (more.length + zeros) := by
  have hlarge : (21 : Int) < ((first :: more).length + zeros : Nat) := by
    rw [List.length_cons]
    omega
  have hexponent :
      (((first :: more).length + zeros : Nat) : Int) - 1 = (more.length + zeros : Nat) := by
    rw [List.length_cons]
    omega
  have hfraction : (if (first :: more).length = 1 then [] else unit '.' :: (first :: more).drop 1) =
      if more = [] then [] else unit '.' :: more := by
    cases more <;> simp
  unfold Digits.text
  rw [hs]
  dsimp only
  rw [if_neg (by omega), if_neg (by omega), if_neg (by omega), hexponent, hfraction,
    if_neg (Int.not_lt.mpr (Int.natCast_nonneg _)), Int.natAbs_natCast]
  rfl

/-! ## Reading digits -/

/-- The digits in front of a text are read up to the first other unit. -/
theorem spanDigits_append {digits rest : Text} (hdigits : ∀ u ∈ digits, (digit? u).isSome)
    (hrest : ∀ u ∈ rest.head?, digit? u = none) :
    spanDigits (digits ++ rest) = (digits.filterMap digit?, rest) := by
  have htake : rest.takeWhile (fun u => (digit? u).isSome) = [] := by
    cases rest with
    | nil => rfl
    | cons u rest => exact List.takeWhile_cons_of_neg (by simpa using hrest u rfl)
  have hdrop : rest.dropWhile (fun u => (digit? u).isSome) = rest := by
    cases rest with
    | nil => rfl
    | cons u rest => exact List.dropWhile_cons_of_neg (by simpa using hrest u rfl)
  rw [spanDigits, List.takeWhile_append_of_pos hdigits, List.dropWhile_append_of_pos hdigits, htake,
    hdrop, List.append_nil]

theorem ofDigits_zero_cons (base : Nat) (digits : List Nat) :
    ofDigits base (0 :: digits) = ofDigits base digits := by
  rw [ofDigits, List.foldl_cons, Nat.zero_mul]
  rfl

/-- Leading zeros do not count. -/
theorem ofDigits_dropWhile (base : Nat) (digits : List Nat) :
    ofDigits base (digits.dropWhile (· = 0)) = ofDigits base digits := by
  induction digits with
  | nil => rfl
  | cons d digits ih =>
    by_cases hd : d = 0
    · subst hd
      rw [ofDigits_zero_cons, ← ih]
      rfl
    · rw [List.dropWhile_cons_of_neg (by simpa using hd)]

/-- Digits with the point behind them and some more zeros have the value they spell. -/
theorem ofDigitsAt_natCast {digits : List Nat} {zeros : Nat} (h : digits.length + zeros ≤ 400) :
    ofDigitsAt digits (digits.length + zeros : Nat) =
      ofRat ((ofDigits 10 digits * 10 ^ zeros : Nat) : Rat) := by
  have hvalue := ofDigits_dropWhile 10 digits
  have hlength := (List.dropWhile_sublist (fun d : Nat => decide (d = 0)) (l := digits)).length_le
  unfold ofDigitsAt
  dsimp only
  generalize digits.dropWhile (fun d => decide (d = 0)) = significant at hvalue hlength ⊢
  have hpoint : ((digits.length + zeros : Nat) : Int) - (digits.length - significant.length : Nat) =
      (significant.length + zeros : Nat) := by omega
  rw [hpoint, ← hvalue]
  by_cases hnone : significant = []
  · subst hnone
    rw [if_pos (.inl rfl), ofDigits, List.foldl_nil, Nat.zero_mul]
    rfl
  · have hexponent : ((significant.length + zeros : Nat) : Int) - significant.length = zeros := by
      omega
    rw [if_neg (not_or.mpr ⟨hnone, by omega⟩), if_neg (by omega), hexponent,
      if_pos (Int.natCast_nonneg zeros), Int.toNat_natCast]
    rfl

theorem mapM_radixDigit?_of_lt_ten : ∀ d < 10,
    [(48 + d).toUInt16].mapM (radixDigit? 10) = some ([(48 + d).toUInt16].filterMap digit?) := by
  decide

/-- A decimal integer is read back. -/
theorem radixValue?_ofNat (n : Nat) : radixValue? 10 (Text.ofNat n) = some n := by
  have hdigits : (Text.ofNat n).mapM (radixDigit? 10) = some ((Text.ofNat n).filterMap digit?) := by
    fun_induction Text.ofNat n with
    | case1 n hn => exact mapM_radixDigit?_of_lt_ten n hn
    | case2 n hn ih =>
      rw [List.mapM_append, ih, mapM_radixDigit?_of_lt_ten _ (Nat.mod_lt n (by decide)),
        List.filterMap_append]
      rfl
  rw [radixValue?, if_neg (Text.ofNat_ne_nil n), hdigits, Option.map_some, ofDigits_ofNat]

/-- The exponent behind a plus sign is read back. -/
theorem exponent?_plus (n : Nat) :
    exponent? (unit 'e' :: unit '+' :: Text.ofNat n) = some (n : Int) := by
  have hplus : unit '+' ≠ unit '-' := by decide
  rw [exponent?, if_pos (.inl rfl), if_neg hplus, if_pos rfl, radixValue?_ofNat]
  rfl

/-! ## Reading numbers -/

/-- A decimal without a point. -/
theorem decimal?_of_whole {t rest : Text} {whole : List Nat} {e : Int}
    (hwhole : spanDigits t = (whole, rest)) (hsome : whole ≠ [])
    (hpoint : ∀ u ∈ rest.head?, u ≠ unit '.') (hexponent : exponent? rest = some e) :
    decimal? t = some (ofDigitsAt whole (whole.length + e)) := by
  unfold decimal?
  cases rest with
  | nil => simp [hwhole, hsome, hexponent]
  | cons u rest =>
    have hu : u ≠ unit '.' := hpoint u rfl
    simp [hwhole, hsome, hu, hexponent]

/-- A decimal with digits on both sides of its point. -/
theorem decimal?_of_point {t rest rest' : Text} {whole fraction : List Nat} {e : Int}
    (hwhole : spanDigits t = (whole, unit '.' :: rest)) (hsome : whole ≠ [])
    (hfraction : spanDigits rest = (fraction, rest')) (hexponent : exponent? rest' = some e) :
    decimal? t = some (ofDigitsAt (whole ++ fraction) (whole.length + e)) := by
  simp [decimal?, hwhole, hsome, hfraction, hexponent]

/-- A natural number that is written out is read as its rounding. -/
theorem decimal?_ofNat {n : Nat} (hlength : (Text.ofNat n).length ≤ 400) :
    decimal? (Text.ofNat n) = some (ofRat (n : Rat)) := by
  have hall := Text.isSome_digit?_of_mem_ofNat n
  have hspan : spanDigits (Text.ofNat n ++ []) = ((Text.ofNat n).filterMap digit?, []) :=
    spanDigits_append hall (by simp)
  rw [List.append_nil] at hspan
  have hdigits := List.filterMap_length_eq_length.mpr hall
  have hsome : (Text.ofNat n).filterMap digit? ≠ [] := by
    rw [← List.length_pos_iff, hdigits, List.length_pos_iff]
    exact Text.ofNat_ne_nil n
  have hvalue := @ofDigitsAt_natCast ((Text.ofNat n).filterMap digit?) 0 (hdigits ▸ hlength)
  rw [ofDigits_ofNat, Nat.pow_zero, Nat.mul_one] at hvalue
  rw [decimal?_of_whole hspan hsome (by simp) rfl]
  exact congrArg some hvalue

/-- Digits with an exponent are read as the rounding of what they spell. -/
theorem decimal?_exponential {s zeros : Nat} {first : CodeUnit} {more : Text}
    (hs : Text.ofNat s = first :: more) (hlength : more.length + 1 + zeros ≤ 400) :
    decimal? (first :: (if more = [] then [] else unit '.' :: more) ++
        unit 'e' :: unit '+' :: Text.ofNat (more.length + zeros)) =
      some (ofRat ((s * 10 ^ zeros : Nat) : Rat)) := by
  have hall := hs ▸ Text.isSome_digit?_of_mem_ofNat s
  obtain ⟨hleading, hmore⟩ := List.forall_mem_cons.mp hall
  obtain ⟨d, hd⟩ := Option.isSome_iff_exists.mp hleading
  have hfirst (rest : Text) (hrest : ∀ u ∈ rest.head?, digit? u = none) :
      spanDigits (first :: rest) = ([d], rest) := by
    have hspan := spanDigits_append (List.forall_mem_singleton.mpr hleading) hrest
    rwa [List.filterMap_cons_some hd] at hspan
  have hexponent := exponent?_plus (more.length + zeros)
  generalize unit '+' :: Text.ofNat (more.length + zeros) = power at hexponent ⊢
  have hletter : ∀ u ∈ (unit 'e' :: power).head?, digit? u = none ∧ u ≠ unit '.' := by
    intro u hu
    obtain rfl := Option.some.inj hu
    decide
  have hdigits := List.filterMap_length_eq_length.mpr hmore
  have hspelled : ofDigits 10 (d :: more.filterMap digit?) = s := by
    rw [← ofDigits_ofNat s, hs, List.filterMap_cons_some hd]
  have hvalue := @ofDigitsAt_natCast (d :: more.filterMap digit?) zeros
    (by rwa [List.length_cons, hdigits])
  have hpoint :
      ((1 : Nat) : Int) + (more.length + zeros : Nat) = (more.length + 1 + zeros : Nat) := by
    omega
  rw [hspelled, List.length_cons, hdigits, ← hpoint] at hvalue
  rw [← hvalue]
  cases more with
  | nil =>
    exact decimal?_of_whole (hfirst _ fun u hu => (hletter u hu).1) (List.cons_ne_nil d [])
      (fun u hu => (hletter u hu).2) hexponent
  | cons second more =>
    have hnone : digit? (unit '.') = none := by decide
    have hspan := hfirst (unit '.' :: (second :: more ++ unit 'e' :: power)) (by simpa using hnone)
    exact decimal?_of_point hspan (List.cons_ne_nil d [])
      (spanDigits_append hmore fun u hu => (hletter u hu).1) hexponent

/-! ## Reading texts -/

/-- A text without blanks stays as it is. -/
theorem trim_of_subset {t : Text} (h : t ⊆ alphabet) : t.trim = t := by
  have halphabet : alphabet.all (fun u => !u.isBlank) = true := by decide
  have hdrop {t : Text} (h : t ⊆ alphabet) : t.dropWhile CodeUnit.isBlank = t := by
    cases t with
    | nil => rfl
    | cons u rest =>
      have hfirst := List.all_eq_true.mp halphabet u (h List.mem_cons_self)
      exact List.dropWhile_cons_of_neg (by simpa using hfirst)
  have hreverse : t.reverse ⊆ alphabet := fun u hu => h (List.mem_reverse.mp hu)
  rw [Text.trim, Text.trimStart, hdrop h, Text.trimEnd, hdrop hreverse, List.reverse_reverse]

/-- A text that begins with a digit is read as a decimal. -/
theorem numeral?_of_digit {first : CodeUnit} {rest : Text} (hfirst : (digit? first).isSome)
    (h : rest ⊆ alphabet) : numeral? (first :: rest) = decimal? (first :: rest) := by
  have halphabet : alphabet.all (fun u => (radix? u).isNone) = true := by decide
  have hradix : rest.head?.bind radix? = none := by
    cases rest with
    | nil => rfl
    | cons u rest =>
      exact Option.isNone_iff_eq_none.mp (List.all_eq_true.mp halphabet u (h List.mem_cons_self))
  have hne {u : CodeUnit} (hu : digit? u = none) : first ≠ u := by
    rintro rfl
    simp [hu] at hfirst
  have hminus : first ≠ unit '-' := hne (by decide)
  have hplus : first ≠ unit '+' := hne (by decide)
  have hword : first :: rest ≠ ("Infinity" : Text) := fun h =>
    hne (by decide : digit? (unit 'I') = none) (List.cons.inj h).1
  simp [numeral?, magnitude?, hradix, hminus, hplus, hword]

/-! ## Counts -/

/-- A finite number is a double if it is its own rounding. -/
def IsDouble : Number → Prop
  | finite q => roundRat? q = some q
  | _ => True

instance (n : Number) : Decidable n.IsDouble :=
  match n with
  | nan => .isTrue trivial
  | infinite _ => .isTrue trivial
  | finite q => inferInstanceAs (Decidable (roundRat? q = some q))

/-- A natural number that is a double. -/
def IsCount (n : Number) : Prop :=
  n.IsWhole ∧ n.IsDouble

instance (n : Number) : Decidable n.IsCount :=
  inferInstanceAs (Decidable (_ ∧ _))

/-- Natural numbers within the exact range are counts. -/
theorem isCount_ofNat {n : Nat} (h : n ≤ exactBound) : IsCount (ofNat n) :=
  ⟨isWhole_ofNat n, roundRat?_intCast (i := n) h⟩

theorem ofRat_eq_of_roundRat? {q value : Rat} (h : roundRat? q = some value) :
    ofRat q = finite value := by
  rw [ofRat, h]

/-- A natural number that is rounded to a double has few digits. -/
theorem length_ofNat_le {n : Nat} {value : Rat} (h : roundRat? (n : Rat) = some value) :
    (Text.ofNat n).length ≤ 400 := by
  rcases Nat.eq_zero_or_pos n with rfl | hn
  · rw [Text.ofNat]
    exact (by decide : 1 ≤ 400)
  obtain ⟨places, hplaces, hpow⟩ := Text.exists_length_ofNat hn
  -- A decimal place is worth more than three binary ones.
  have hlog : 3 * places ≤ n.log2 := by
    rw [Nat.le_log2 hn.ne']
    calc 2 ^ (3 * places) = (2 ^ 3) ^ places := Nat.pow_mul ..
      _ ≤ 10 ^ places := Nat.pow_le_pow_left (by decide) places
      _ ≤ n := hpow
  by_contra hlong
  have hnone : roundMagnitude? n 1 = none := roundMagnitude?_eq_none (by omega)
  have hlarge : ¬ n ≤ exactBound := by
    intro hexact
    have hshort : n.log2 < 54 :=
      (Nat.log2_lt hn.ne').mpr (hexact.trans_lt (by decide : exactBound < 2 ^ 54))
    omega
  simp [roundRat?, hlarge, hnone] at h

/-- The text of a count begins with a digit and is a decimal that is read as the count. -/
theorem exists_text_eq {n : Nat} (hdouble : IsDouble (ofNat n)) :
    ∃ first rest, (ofNat n).text = first :: rest ∧ (digit? first).isSome ∧
      decimal? (ofNat n).text = some (ofNat n) := by
  by_cases hexact : n ≤ exactBound
  · obtain ⟨first, rest, hcons, hfirst⟩ := Text.exists_ofNat_eq_cons n
    rw [text_ofNat hexact, decimal?_ofNat (length_ofNat_le hdouble), ofRat_eq_of_roundRat? hdouble]
    exact ⟨first, rest, hcons, hfirst, rfl⟩
  · have hn : 0 < n := by omega
    obtain ⟨s, zeros, hs, hshortest, hreads⟩ := shortest_natCast hn hdouble
    have htext : (ofNat n).text = (shortest n 1).text := by
      simp [text, ofNat, magnitudeText, hexact]
    have hlength := length_ofNat_le hreads
    have hvalue := ofRat_eq_of_roundRat? hreads
    rw [htext, hshortest]
    rcases Nat.lt_or_ge 21 ((Text.ofNat s).length + zeros) with hlong | hshort
    · obtain ⟨first, more, hcons, hfirst⟩ := Text.exists_ofNat_eq_cons s
      rw [Text.ofNat_mul_ten_pow hs, List.length_append, List.length_replicate, hcons,
        List.length_cons] at hlength
      rw [hcons, List.length_cons] at hlong
      rw [Digits.text_exponential hcons hlong, decimal?_exponential hcons hlength, hvalue]
      exact ⟨first, _, rfl, hfirst, rfl⟩
    · obtain ⟨first, rest, hcons, hfirst⟩ := Text.exists_ofNat_eq_cons (s * 10 ^ zeros)
      rw [Digits.text_positional hs hshort, decimal?_ofNat hlength, hvalue]
      exact ⟨first, rest, hcons, hfirst, rfl⟩

/-- **A count reads back.** -/
theorem ofText_text {n : Number} (h : n.IsCount) : ofText n.text = n := by
  obtain ⟨⟨k, rfl⟩, hdouble⟩ := h
  obtain ⟨first, rest, htext, hfirst, hdecimal⟩ := exists_text_eq hdouble
  have hsubset := (ofNat k).text_subset
  rw [ofText, trim_of_subset hsubset, htext, numeral?_of_digit hfirst, ← htext, hdecimal]
  · rfl
  · rw [htext] at hsubset
    exact (List.cons_subset.mp hsubset).2

example : (ofNat (2 ^ 70)).text = "1.1805916207174113e+21" := by decide +kernel

/-- **No two counts are written alike.** -/
theorem text_inj {m n : Number} (hm : m.IsCount) (hn : n.IsCount) : m.text = n.text ↔ m = n := by
  refine ⟨fun h => ?_, congrArg text⟩
  rw [← ofText_text hm, h, ofText_text hn]

end Number

end Probing
