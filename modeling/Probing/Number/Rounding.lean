/-!
# Rounding to double precision

The nearest binary fraction with 53 significant bits and an exponent of at least -1074, a tie going
to the even neighbour. A value beyond the largest such fraction has none.

## Main definitions

* `floorLog2`: the binary order of magnitude of a fraction
* `halfEven`: the integer nearest to a fraction
* `roundMagnitude?`: rounding of a positive fraction
* `roundRat?`: rounding of any rational
-/

namespace Probing.Number

/-- The numerator and denominator of `num / den` divided by `2 ^ e`. -/
def scaleDown (num den : Nat) (e : Int) : Nat × Nat :=
  if 0 ≤ e then (num, den * Nat.pow 2 e.toNat) else (num * Nat.pow 2 (-e).toNat, den)

/-- The greatest `e` with `2 ^ e ≤ num / den`, for a positive fraction. The difference of the two
lengths is this number or one more. -/
def floorLog2 (num den : Nat) : Int :=
  let e : Int := num.log2 - den.log2
  let scaled := scaleDown num den e
  if scaled.2 ≤ scaled.1 then e else e - 1

/-- The integer nearest to `num / den`; halfway between two integers it is the even one. -/
def halfEven (num den : Nat) : Nat :=
  let floor := num / den
  let twice := 2 * (num % den)
  if twice < den then floor
  else if den < twice then floor + 1
  else floor + floor % 2

/-- `m * 2 ^ e` as a rational. -/
def ofBinary (m : Nat) (e : Int) : Rat :=
  if 0 ≤ e then ((m * Nat.pow 2 e.toNat : Nat) : Rat) else mkRat m (Nat.pow 2 (-e).toNat)

/-- The double nearest to the positive fraction `num / den`, nothing from 2^1024 on. -/
def roundMagnitude? (num den : Nat) : Option Rat :=
  let e := max (floorLog2 num den - 52) (-1074)
  let scaled := scaleDown num den e
  let m := halfEven scaled.1 scaled.2
  if Nat.pow 2 1024 ≤ m * Nat.pow 2 e.toNat then none else some (ofBinary m e)

/-- The largest integer below which every integer is a double. -/
def exactBound : Nat := Nat.pow 2 53

/-- The double nearest to a rational, nothing when it is too large for one. Small integers are
doubles themselves. -/
def roundRat? (q : Rat) : Option Rat :=
  if q.den = 1 ∧ q.num.natAbs ≤ exactBound then some q
  else if q.num < 0 then (roundMagnitude? q.num.natAbs q.den).map (- ·)
  else roundMagnitude? q.num.natAbs q.den

end Probing.Number
