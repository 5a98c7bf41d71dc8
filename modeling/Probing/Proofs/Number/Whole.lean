import Probing.Number.Basic

/-!
# Arithmetic on whole numbers

Counts, sizes and totals are whole numbers, and up to the exact bound their sums, differences and
comparisons are those of the integers. Beyond it a rounded result is never mistaken for a small
one: it stays beyond, or becomes an infinity.

## Main definitions

* `Far n`: `n` is an infinity, or an integer that reaches the exact bound

## Main results

* `sub_ofInt_cases`: a difference of integers is exact or far
* `sub_ofInt_eq_iff`, `sub_sub_ofInt_eq_iff`: a difference that comes out small is exact
* `min_add_ofNat`: a sum capped below the exact bound is the capped sum of the integers
* `toInt?_eq_some_iff`, `positiveInteger?_eq_some_iff`: the numbers that are integers, and those
  that can bound a count
-/

namespace Probing.Number

theorem ofNat_inj {a b : Nat} : ofNat a = ofNat b ↔ a = b := by
  simp [ofNat]

theorem ofInt_inj {a b : Int} : ofInt a = ofInt b ↔ a = b := by
  simp [ofInt]

theorem ofInt_natCast (n : Nat) : ofInt (n : Int) = ofNat n := rfl

theorem ble_ofNat (a b : Nat) : (ofNat a).ble (ofNat b) = decide (a ≤ b) := by
  simp [ofNat, ble, Rat.natCast_le_natCast]

theorem blt_ofNat (a b : Nat) : (ofNat a).blt (ofNat b) = decide (a < b) := by
  simp [ofNat, blt, Rat.natCast_lt_natCast]

theorem min_ofNat (a b : Nat) : Number.min (ofNat a) (ofNat b) = ofNat (Nat.min a b) := by
  have hmin : Number.min (ofNat a) (ofNat b) =
      if (ofNat a).ble (ofNat b) then ofNat a else ofNat b := rfl
  rw [hmin, ble_ofNat]
  by_cases h : a ≤ b
  · simp [h, Nat.min_eq_left h]
  · simp [h, Nat.min_eq_right (Nat.le_of_not_le h)]

theorem blt_ofInt (a b : Int) : (ofInt a).blt (ofInt b) = decide (a < b) := by
  simp [ofInt, blt, Rat.intCast_lt_intCast]

/-- The integer of a number is the one it was made from. -/
theorem toInt?_eq_some_iff {n : Number} {i : Int} : n.toInt? = some i ↔ n = ofInt i := by
  constructor
  · intro h
    cases n with
    | nan => cases h
    | infinite negative => cases h
    | finite q =>
      by_cases hden : q.den = 1
      · have hq : q = (q.num : Rat) := Rat.ext rfl (by rw [hden]; rfl)
        have hnum : q.num = i := by simpa [toInt?, hden] using h
        rw [hq, hnum]
        rfl
      · simp [toInt?, hden] at h
  · rintro rfl
    simp [toInt?, ofInt]

theorem positiveInteger?_eq_some_iff {n : Number} {k : Nat} :
    n.positiveInteger? = some k ↔ n = ofNat k ∧ 0 < k ∧ k ≤ maxCount := by
  constructor
  · intro h
    unfold positiveInteger? at h
    split at h
    · next i hi =>
      split at h
      · next hrange =>
        obtain rfl := Option.some.inj h
        have hnat : ((i.toNat : Nat) : Int) = i := Int.toNat_of_nonneg (Int.le_of_lt hrange.1)
        refine ⟨?_, by omega, by omega⟩
        rw [toInt?_eq_some_iff.mp hi, ← ofInt_natCast, hnat]
      · cases h
    · cases h
  · rintro ⟨rfl, hpos, hle⟩
    have hi : (ofNat k).toInt? = some (k : Int) := toInt?_eq_some_iff.mpr rfl
    have hrange : 0 < (k : Int) ∧ (k : Int) ≤ maxCount := by omega
    simp only [positiveInteger?, hi, hrange, and_self, if_true, Int.toNat_natCast]

/-! ## Rounding of integers -/

theorem roundRat?_intCast {i : Int} (h : i.natAbs ≤ exactBound) : roundRat? (i : Rat) = some i := by
  simp [roundRat?, h]

theorem ofRat_intCast {i : Int} (h : i.natAbs ≤ exactBound) : ofRat (i : Rat) = ofInt i := by
  rw [ofRat, roundRat?_intCast h]
  rfl

theorem floorLog2_one {n : Nat} (hn : n ≠ 0) : floorLog2 n 1 = n.log2 := by
  have hle : 2 ^ n.log2 ≤ n := Nat.log2_self_le hn
  have hone : Nat.log2 1 = 0 := by decide
  simp [floorLog2, scaleDown, hone, hle]

theorem div_le_halfEven (num den : Nat) : num / den ≤ halfEven num den := by
  unfold halfEven
  dsimp only
  split
  · exact Nat.le_refl _
  · split <;> omega

/-- The mantissa to which a large integer is rounded keeps the leading bit. -/
theorem exists_roundMagnitude?_eq {n : Nat} (hn : exactBound ≤ n) :
    ∃ mantissa e : Nat, Nat.pow 2 52 ≤ mantissa ∧ 0 < e ∧ n.log2 = 52 + e ∧
      roundMagnitude? n 1 = if Nat.pow 2 1024 ≤ mantissa * Nat.pow 2 e then none
        else some ((mantissa * Nat.pow 2 e : Nat) : Rat) := by
  have hn0 : n ≠ 0 := by
    rintro rfl
    exact absurd hn (by decide)
  -- The leading bit has weight `2 ^ (52 + e)`, so that `e` bits are rounded away.
  have hlog : 53 ≤ n.log2 := (Nat.le_log2 hn0).mpr hn
  obtain ⟨e, he⟩ : ∃ e : Nat, n.log2 = 52 + e := ⟨n.log2 - 52, by omega⟩
  have hexp : max (floorLog2 n 1 - 52) (-1074) = (e : Int) := by
    rw [floorLog2_one hn0]
    omega
  have hpow : 2 ^ 52 * 2 ^ e ≤ n := by
    rw [← Nat.pow_add, ← he]
    exact Nat.log2_self_le hn0
  have hmantissa : 2 ^ 52 ≤ halfEven n (2 ^ e) :=
    Nat.le_trans ((Nat.le_div_iff_mul_le (Nat.two_pow_pos e)).mpr hpow) (div_le_halfEven _ _)
  refine ⟨halfEven n (2 ^ e), e, hmantissa, by omega, he, ?_⟩
  unfold roundMagnitude?
  simp only [hexp, scaleDown, ofBinary, Int.toNat_natCast, Int.natCast_nonneg, if_true,
    Nat.one_mul]
  rfl

/-- A large integer is rounded to a large integer, if to any number at all. -/
theorem roundMagnitude?_of_le {n : Nat} (hn : exactBound ≤ n) :
    roundMagnitude? n 1 = none ∨
      ∃ k : Nat, exactBound ≤ k ∧ roundMagnitude? n 1 = some (k : Rat) := by
  obtain ⟨mantissa, e, hmantissa, he, -, hround⟩ := exists_roundMagnitude?_eq hn
  rw [hround]
  split
  · exact .inl rfl
  · refine .inr ⟨mantissa * 2 ^ e, ?_, rfl⟩
    have h2 : 2 ^ 1 ≤ 2 ^ e := Nat.pow_le_pow_right (by decide) he
    calc exactBound = 2 ^ 52 * 2 ^ 1 := rfl
      _ ≤ mantissa * 2 ^ e := Nat.mul_le_mul hmantissa h2

/-- An integer beyond the doubles is not rounded to any. -/
theorem roundMagnitude?_eq_none {n : Nat} (hn : 1024 ≤ n.log2) : roundMagnitude? n 1 = none := by
  have hn0 : n ≠ 0 := by
    rintro rfl
    exact absurd hn (by decide)
  have hbound : exactBound ≤ n := (Nat.le_log2 hn0).mp (Nat.le_trans (by decide) hn)
  obtain ⟨mantissa, e, hmantissa, -, he, hround⟩ := exists_roundMagnitude?_eq hbound
  have hlarge (k : Nat) (hk : k ≤ 52 + e) : Nat.pow 2 k ≤ mantissa * 2 ^ e := by
    calc 2 ^ k ≤ 2 ^ (52 + e) := Nat.pow_le_pow_right (by decide) hk
      _ = 2 ^ 52 * 2 ^ e := Nat.pow_add ..
      _ ≤ mantissa * 2 ^ e := Nat.mul_le_mul_right _ hmantissa
  rw [hround]
  split
  · rfl
  · next hsmall =>
    exfalso
    refine hsmall ?_
    apply hlarge
    exact he ▸ hn

/-- An infinity, or an integer that reaches the exact bound. -/
def Far (n : Number) : Prop :=
  (∃ negative, n = infinite negative) ∨ ∃ i : Int, exactBound ≤ i.natAbs ∧ n = ofInt i

theorem ofRat_intCast_cases (i : Int) : ofRat (i : Rat) = ofInt i ∨ Far (ofRat (i : Rat)) := by
  by_cases h : i.natAbs ≤ exactBound
  · exact .inl (ofRat_intCast h)
  · right
    rcases roundMagnitude?_of_le (Nat.le_of_not_le h) with hnone | ⟨k, hk, hsome⟩
    · left
      by_cases hi : i < 0 <;> simp [ofRat, roundRat?, h, hi, hnone]
    · right
      by_cases hi : i < 0
      · refine ⟨-k, by simpa using hk, ?_⟩
        simp [ofRat, roundRat?, h, hi, hsome, ofInt, Rat.intCast_natCast]
      · refine ⟨k, by simpa using hk, ?_⟩
        simp [ofRat, roundRat?, h, hi, hsome, ofInt, Rat.intCast_natCast]

theorem ofRat_natCast_of_le {n : Nat} (hn : exactBound ≤ n) :
    ofRat (n : Rat) = infinite false ∨ ∃ k : Nat, exactBound ≤ k ∧ ofRat (n : Rat) = ofNat k := by
  by_cases h : n ≤ exactBound
  · have hround : ofRat (((n : Int) : Rat)) = ofInt n := ofRat_intCast h
    exact .inr ⟨n, hn, hround⟩
  · have hsign : ¬ (n : Int) < 0 := by omega
    rcases roundMagnitude?_of_le hn with hnone | ⟨k, hk, hsome⟩
    · left
      simp [ofRat, roundRat?, h, hsign, hnone]
    · exact .inr ⟨k, hk, by simp [ofRat, roundRat?, h, hsign, hsome, ofNat]⟩

theorem sub_ofInt (a b : Int) : (ofInt a).sub (ofInt b) = ofRat ((a - b : Int) : Rat) := by
  simp [sub, neg, add, ofInt, Rat.sub_eq_add_neg]

/-- A difference within the exact bound is exact. -/
theorem sub_ofInt_of_le {a b : Int} (h : (a - b).natAbs ≤ exactBound) :
    (ofInt a).sub (ofInt b) = ofInt (a - b) := by
  rw [sub_ofInt, ofRat_intCast h]

/-- A difference of integers is exact, unless it is far. -/
theorem sub_ofInt_cases (a b : Int) :
    (ofInt a).sub (ofInt b) = ofInt (a - b) ∨ Far ((ofInt a).sub (ofInt b)) := by
  rw [sub_ofInt]
  exact ofRat_intCast_cases (a - b)

/-- A number minus a small integer is small only if it was close to that integer. -/
theorem Far.sub_ofInt_ne {n : Number} (hn : Far n) {a b : Int} (ha : a.natAbs ≤ 1)
    (hb : b.natAbs ≤ 1) : n.sub (ofInt a) ≠ ofInt b := by
  rcases hn with ⟨negative, rfl⟩ | ⟨i, hi, rfl⟩
  · simp [sub, neg, add, ofInt]
  · rcases sub_ofInt_cases i a with h | ⟨negative, h⟩ | ⟨j, hj, h⟩
    · -- An exact difference is at most one nearer to zero than the number.
      rw [h, Ne, ofInt_inj]
      have hbound : exactBound = 9007199254740992 := rfl
      omega
    · rw [h]
      simp [ofInt]
    · rw [h, Ne, ofInt_inj]
      have hbound : exactBound = 9007199254740992 := rfl
      omega

/-- A far number is not a small one. -/
theorem Far.ne_ofInt {n : Number} (hn : Far n) {k : Int} (hk : k.natAbs ≤ 1) : n ≠ ofInt k := by
  rintro rfl
  rcases hn with ⟨negative, h⟩ | ⟨i, hi, h⟩
  · cases h
  · have hbound : exactBound = 9007199254740992 := rfl
    rw [ofInt_inj] at h
    omega

/-- A rounded difference of at most one is the exact difference. -/
theorem sub_ofInt_eq_iff {a b k : Int} (hk : k.natAbs ≤ 1) :
    (ofInt a).sub (ofInt b) = ofInt k ↔ a - b = k := by
  constructor
  · intro h
    rcases sub_ofInt_cases a b with hexact | hfar
    · exact ofInt_inj.mp (hexact.symm.trans h)
    · exact absurd h (hfar.ne_ofInt hk)
  · rintro rfl
    exact sub_ofInt_of_le (Nat.le_trans hk (by decide))

/-- The same for a difference from which a small number is taken away again. -/
theorem sub_sub_ofInt_eq_iff {a b c k : Int} (hc : c.natAbs ≤ 1) (hk : k.natAbs ≤ 1) :
    ((ofInt a).sub (ofInt b)).sub (ofInt c) = ofInt k ↔ a - b - c = k := by
  rcases sub_ofInt_cases a b with hexact | hfar
  · rw [hexact]
    exact sub_ofInt_eq_iff hk
  · -- A far difference satisfies neither side: a small one would have been exact.
    refine ⟨fun h => absurd h (hfar.sub_ofInt_ne hc hk), fun h => ?_⟩
    have hbound : exactBound = 9007199254740992 := rfl
    have hexact : (ofInt a).sub (ofInt b) = ofInt (a - b) := sub_ofInt_of_le (by omega)
    rw [hexact]
    exact (sub_ofInt_eq_iff hk).mpr h

/-- A sum capped below the exact bound is the capped sum of the integers. -/
theorem min_add_ofNat {a b cap : Nat} (hcap : cap ≤ maxCount) :
    Number.min ((ofNat a).add (ofNat b)) (ofNat cap) = ofNat (Nat.min (a + b) cap) := by
  have hbound : exactBound = maxCount + 1 := rfl
  have hsum : (ofNat a).add (ofNat b) = ofRat ((a + b : Nat) : Rat) := by
    simp [add, ofNat]
  rw [hsum]
  by_cases h : a + b ≤ exactBound
  · have hround : ofRat (((a + b : Nat) : Int) : Rat) = ofInt (a + b : Nat) := ofRat_intCast h
    rw [Rat.intCast_natCast, ofInt_natCast] at hround
    rw [hround, min_ofNat]
  · have hlarge : exactBound ≤ a + b := Nat.le_of_not_le h
    have hcapped : Nat.min (a + b) cap = cap := Nat.min_eq_right (by omega)
    rw [hcapped]
    rcases ofRat_natCast_of_le hlarge with hinf | ⟨k, hk, hfin⟩
    · rw [hinf]
      rfl
    · rw [hfin, min_ofNat]
      exact congrArg ofNat (Nat.min_eq_right (by omega))

end Probing.Number
