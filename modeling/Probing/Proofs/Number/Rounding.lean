import Mathlib.Algebra.Order.Field.Basic
import Mathlib.Algebra.Order.Ring.Rat
import Probing.Proofs.Number.Whole

/-!
# Rounding and whole numbers

A rational is rounded to one of the two doubles next to it, so that rounding does not carry it past
an integer which is a double itself. Hence a sum with a number that is not less than one lies above
the other summand, even when it is rounded; and when such a sum, or a smaller number of two, comes
out as a whole number, it says what it was made from.

## Main definitions

* `Number.IsWhole`: the natural numbers among the numbers
* `Number.IsSize`: a natural number or infinity

## Main results

* `le_of_ofRat_eq`: a rational that is rounded to a whole number was not far above it
* `lt_of_add_eq_ofNat`: a whole sum lies above what something was added to
* `min_eq_ofNat_cases`: where a whole minimum comes from
-/

namespace Probing.Number

/-- A number that is a natural number. -/
def IsWhole (n : Number) : Prop :=
  ∃ k : Nat, n = ofNat k

theorem isWhole_ofNat (k : Nat) : IsWhole (ofNat k) :=
  ⟨k, rfl⟩

theorem isWhole_of_toInt? {n : Number} {i : Int} (h : n.toInt? = some i) (hi : 0 ≤ i) :
    IsWhole n := by
  obtain ⟨k, rfl⟩ := Int.eq_ofNat_of_zero_le hi
  exact ⟨k, toInt?_eq_some_iff.mp h⟩

theorem isWhole_iff {n : Number} :
    n.toInt?.any (fun i => decide (0 ≤ i)) = true ↔ IsWhole n := by
  rw [Option.any_eq_true]
  constructor
  · rintro ⟨i, hi, hnonneg⟩
    exact isWhole_of_toInt? hi (of_decide_eq_true hnonneg)
  · rintro ⟨k, rfl⟩
    exact ⟨k, toInt?_eq_some_iff.mpr rfl, decide_eq_true (Int.natCast_nonneg k)⟩

instance (n : Number) : Decidable (IsWhole n) :=
  decidable_of_iff _ isWhole_iff

theorem blt_ofNat_mono {a : Number} {m n : Nat} (h : a.blt (ofNat m) = true) (hle : m ≤ n) :
    a.blt (ofNat n) = true := by
  cases a with
  | nan => cases h
  | infinite negative => exact h
  | finite q =>
    have hlt : q < m := by simpa [blt, ofNat] using h
    have hcast : (m : Rat) ≤ n := Nat.cast_le.mpr hle
    simpa [blt, ofNat] using hlt.trans_le hcast

/-! ## Rounding keeps to its side of an integer -/

/-- The order of magnitude is not too large. -/
theorem two_pow_floorLog2_le {num den exponent : Nat} (hnum : num ≠ 0)
    (h : floorLog2 num den = exponent) : den * 2 ^ exponent ≤ num := by
  have hden : den < 2 ^ (den.log2 + 1) := Nat.lt_log2_self
  have hle : 2 ^ num.log2 ≤ num := Nat.log2_self_le hnum
  unfold floorLog2 at h
  dsimp only at h
  split at h
  · next hscaled =>
    rw [h, scaleDown, if_pos (Int.natCast_nonneg _), Int.toNat_natCast] at hscaled
    exact hscaled
  · have hlog : num.log2 = den.log2 + 1 + exponent := by omega
    calc den * 2 ^ exponent ≤ 2 ^ (den.log2 + 1) * 2 ^ exponent :=
          Nat.mul_le_mul_right _ hden.le
      _ = 2 ^ num.log2 := by rw [← Nat.pow_add, ← hlog]
      _ ≤ num := hle

theorem natCast_le_mkRat {n m den : Nat} (hden : 0 < den) (h : n * den ≤ m) :
    (n : Rat) ≤ mkRat m den := by
  have hpos : (0 : Rat) < (den : Rat) := Nat.cast_pos.mpr hden
  rw [Rat.mkRat_eq_div, Rat.intCast_natCast, le_div_iff₀ hpos]
  exact_mod_cast h

/-- A positive fraction that reaches an integer of at most 52 bits still does so when it is
rounded. -/
theorem le_of_roundMagnitude?_eq {num den n : Nat} {value : Rat} (hden : 0 < den) (hpos : 0 < n)
    (hn : n ≤ 2 ^ 52) (hle : n * den ≤ num) (h : roundMagnitude? num den = some value) :
    (n : Rat) ≤ value := by
  have hnum : num ≠ 0 := ((Nat.mul_pos hpos hden).trans_le hle).ne'
  unfold roundMagnitude? at h
  dsimp only at h
  split at h
  · cases h
  obtain rfl := Option.some.inj h
  rcases lt_or_ge (max (floorLog2 num den - 52) (-1074)) 0 with hneg | hnonneg
  · simp only [scaleDown, ofBinary, if_neg (Int.not_le.mpr hneg)]
    generalize (-max (floorLog2 num den - 52) (-1074)).toNat = places
    have hmultiple : n * 2 ^ places ≤ num * 2 ^ places / den := by
      rw [Nat.le_div_iff_mul_le hden, Nat.mul_right_comm]
      exact Nat.mul_le_mul_right _ hle
    exact natCast_le_mkRat (Nat.two_pow_pos places)
      (hmultiple.trans (div_le_halfEven _ _))
  · -- The leading bit alone reaches the integer.
    obtain ⟨k, hexponent⟩ := Int.eq_ofNat_of_zero_le hnonneg
    have hlog : floorLog2 num den = ((52 + k : Nat) : Int) := by omega
    have hleading : 2 ^ 52 * (den * 2 ^ k) ≤ num := by
      have hpow := two_pow_floorLog2_le hnum hlog
      rwa [Nat.pow_add, Nat.mul_left_comm] at hpow
    have hmantissa : 2 ^ 52 ≤ halfEven num (den * 2 ^ k) :=
      ((Nat.le_div_iff_mul_le (Nat.mul_pos hden (Nat.two_pow_pos k))).mpr hleading).trans
        (div_le_halfEven _ _)
    simp only [hexponent, scaleDown, ofBinary, Int.natCast_nonneg, if_true, Int.toNat_natCast]
    exact Nat.cast_le.mpr
      ((hn.trans hmantissa).trans (Nat.le_mul_of_pos_right _ (Nat.two_pow_pos k)))

/-- **A rational that is rounded to a whole number was not far above it**: an integer between them
would have been in the way. -/
theorem le_of_ofRat_eq {q : Rat} {n k : Nat} (hpos : 0 < n) (hn : n ≤ 2 ^ 52) (hle : (n : Rat) ≤ q)
    (h : ofRat q = ofNat k) : n ≤ k := by
  have hcross : ((n * q.den : Nat) : Int) ≤ q.num := by
    simpa using (Rat.le_iff _ _).mp hle
  have hpositive : 0 < n * q.den := Nat.mul_pos hpos q.den_pos
  have hround : roundRat? q = some (k : Rat) := by
    unfold ofRat at h
    split at h
    · next value hvalue =>
      rw [hvalue]
      exact congrArg some (Number.finite.inj h)
    · cases h
  have hsign : ¬ q.num < 0 := by omega
  unfold roundRat? at hround
  rw [if_neg hsign] at hround
  split at hround
  · rw [Option.some.inj hround] at hle
    exact_mod_cast hle
  · exact_mod_cast le_of_roundMagnitude?_eq q.den_pos hpos hn (by omega) hround

/-! ## Whole results -/

/-- **A whole sum lies above what something was added to**, if that was not less than one. -/
theorem lt_of_add_eq_ofNat {a : Number} {s r : Nat} (hs : s < 2 ^ 52) (ha : a.blt (ofNat 1) = false)
    (h : (ofNat s).add a = ofNat r) : s < r := by
  cases a with
  | nan => cases h
  | infinite negative => cases h
  | finite q =>
    have hq : (1 : Rat) ≤ q := by simpa [blt, ofNat] using ha
    have hsum : ((s + 1 : Nat) : Rat) ≤ s + q := by
      push_cast
      exact add_le_add_right hq _
    exact le_of_ofRat_eq (Nat.succ_pos s) hs hsum h

theorem min_finite (a b : Rat) : Number.min (finite a) (finite b) = finite (Min.min a b) := by
  show (if (finite a).ble (finite b) then finite a else finite b) = _
  simp only [ble, decide_eq_true_iff]
  split
  · next hle => rw [min_eq_left hle]
  · next hlt => rw [min_eq_right (le_of_not_ge hlt)]

theorem min_comm (a b : Number) : Number.min a b = Number.min b a := by
  cases a with
  | nan => cases b <;> rfl
  | infinite negative =>
    cases b with
    | nan => rfl
    | infinite other => cases negative <;> cases other <;> rfl
    | finite q => cases negative <;> rfl
  | finite q =>
    cases b with
    | nan => rfl
    | infinite negative => cases negative <;> rfl
    | finite r => rw [min_finite, min_finite, inf_comm]

/-- **Where a whole minimum comes from**: it is the bound, or the other number and not above it. -/
theorem min_eq_ofNat_cases {a : Number} {m r : Nat} (h : Number.min a (ofNat m) = ofNat r) :
    r = m ∨ a = ofNat r ∧ r ≤ m := by
  cases a with
  | nan => cases h
  | infinite negative =>
    cases negative with
    | false => exact .inl (ofNat_inj.mp h.symm)
    | true => cases h
  | finite q =>
    have hmin : Min.min q (m : Rat) = r := Number.finite.inj ((min_finite q m).symm.trans h)
    rcases le_total q m with hle | hge
    · rw [min_eq_left hle] at hmin
      subst hmin
      exact .inr ⟨rfl, Nat.cast_le.mp hle⟩
    · rw [min_eq_right hge] at hmin
      exact .inl (Nat.cast_injective hmin).symm

/-! ## Sizes -/

/-- A number that can bound a size: a natural number or infinity. -/
def IsSize (n : Number) : Prop :=
  IsWhole n ∨ n = infinite false

theorem IsSize.min_ofNat {a : Number} (h : IsSize a) (m : Nat) :
    IsWhole (Number.min a (ofNat m)) := by
  rcases h with ⟨k, rfl⟩ | rfl
  · exact ⟨_, Number.min_ofNat k m⟩
  · exact ⟨m, rfl⟩

theorem IsSize.min_add_ofNat {a : Number} (h : IsSize a) (s : Nat) {m : Nat} (hm : m ≤ maxCount) :
    IsWhole (Number.min ((ofNat s).add a) (ofNat m)) := by
  rcases h with ⟨k, rfl⟩ | rfl
  · exact ⟨_, Number.min_add_ofNat hm⟩
  · exact ⟨m, rfl⟩

end Probing.Number
