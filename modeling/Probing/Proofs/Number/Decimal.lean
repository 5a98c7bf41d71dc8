import Probing.Number.Decimal
import Probing.Number.Numeral

/-!
# Decimal text reads back

The digits of a natural number have that number as their value, so that no two numbers are written
alike. Whole numbers within the exact range are written in this way. Every other number is written
with the same digits and a few more units.

## Main definitions

* `Number.alphabet`: the units that numbers are written with

## Main results

* `Number.ofDigits_ofNat`: the value of the digits of a number
* `Number.text_ofNat`: whole numbers are written digit by digit
* `Number.text_subset`: every number is written in the alphabet
-/

namespace Probing

theorem digit?_of_lt_ten : ∀ d < 10, digit? (48 + d).toUInt16 = some d := by decide

/-- A number is written with digits only. -/
theorem Text.isSome_digit?_of_mem_ofNat (n : Nat) : ∀ u ∈ ofNat n, (digit? u).isSome := by
  fun_induction ofNat n with
  | case1 n hn =>
    intro u hu
    rw [List.mem_singleton.mp hu, digit?_of_lt_ten n hn]
    rfl
  | case2 n hn ih =>
    intro u hu
    rcases List.mem_append.mp hu with hleading | hlast
    · exact ih u hleading
    · rw [List.mem_singleton.mp hlast, digit?_of_lt_ten (n % 10) (Nat.mod_lt n (by decide))]
      rfl

namespace Number

theorem ofDigits_concat (base : Nat) (digits : List Nat) (d : Nat) :
    ofDigits base (digits ++ [d]) = ofDigits base digits * base + d := by
  simp only [ofDigits, List.foldl_append, List.foldl_cons, List.foldl_nil]

/-- **The digits of a number read back.** -/
theorem ofDigits_ofNat (n : Nat) : ofDigits 10 ((Text.ofNat n).filterMap digit?) = n := by
  fun_induction Text.ofNat n with
  | case1 n hn =>
    rw [List.filterMap_cons_some (digit?_of_lt_ten n hn), List.filterMap_nil]
    simp [ofDigits]
  | case2 n hn ih =>
    have hlast : digit? (48 + n % 10).toUInt16 = some (n % 10) :=
      digit?_of_lt_ten _ (Nat.mod_lt n (by decide))
    rw [List.filterMap_append, List.filterMap_cons_some hlast, List.filterMap_nil, ofDigits_concat,
      ih]
    omega

/-- **Whole numbers are written digit by digit**, as long as they are in the exact range. -/
theorem text_ofNat {n : Nat} (h : n ≤ exactBound) : (ofNat n).text = Text.ofNat n := by
  simp [text, ofNat, magnitudeText, h]

/-! ## The alphabet -/

/-- The units that numbers are written with. -/
def alphabet : Text := "0123456789+-.eInfinityNaN"

theorem digit_subset : ∀ d < 10, [(48 + d).toUInt16] ⊆ alphabet := by decide

theorem ofNat_subset (n : Nat) : Text.ofNat n ⊆ alphabet := by
  fun_induction Text.ofNat n with
  | case1 n hn => exact digit_subset n hn
  | case2 n hn ih =>
    exact List.append_subset.mpr ⟨ih, digit_subset (n % 10) (Nat.mod_lt n (by decide))⟩

theorem zeros_subset (n : Nat) : List.replicate n (unit '0') ⊆ alphabet :=
  List.replicate_subset.mpr (.inr (by decide))

/-- Digits are written in the alphabet in every notation. -/
theorem digits_subset (digits : Digits) : digits.text ⊆ alphabet := by
  have hdigits := ofNat_subset digits.significand
  have htake (n : Nat) : (Text.ofNat digits.significand).take n ⊆ alphabet :=
    List.Subset.trans (List.take_subset _ _) hdigits
  have hdrop (n : Nat) : (Text.ofNat digits.significand).drop n ⊆ alphabet :=
    List.Subset.trans (List.drop_subset _ _) hdigits
  unfold Digits.text
  dsimp only
  split
  · exact List.append_subset.mpr ⟨hdigits, zeros_subset _⟩
  · split
    · exact List.append_subset.mpr ⟨htake _, List.cons_subset.mpr ⟨by decide, hdrop _⟩⟩
    · split
      · exact List.append_subset.mpr
          ⟨List.append_subset.mpr ⟨by decide, zeros_subset _⟩, hdigits⟩
      · refine List.append_subset.mpr ⟨List.append_subset.mpr ⟨htake _, ?_⟩,
          List.cons_subset.mpr ⟨by decide, List.cons_subset.mpr ⟨?_, ofNat_subset _⟩⟩⟩
        · split
          · exact List.nil_subset _
          · exact List.cons_subset.mpr ⟨by decide, hdrop _⟩
        · split <;> decide

theorem magnitudeText_subset (num den : Nat) : magnitudeText num den ⊆ alphabet := by
  unfold magnitudeText
  split
  · exact ofNat_subset num
  · exact digits_subset _

/-- **Every number is written in the alphabet.** -/
theorem text_subset (n : Number) : n.text ⊆ alphabet := by
  match n with
  | .nan => decide
  | .infinite false => decide
  | .infinite true => decide
  | .finite q =>
    show (if q.num < 0 then _ else _ : Text) ⊆ alphabet
    split
    · exact List.cons_subset.mpr ⟨by decide, magnitudeText_subset _ _⟩
    · exact magnitudeText_subset _ _

end Number

end Probing
