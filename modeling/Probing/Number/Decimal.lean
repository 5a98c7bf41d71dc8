import Probing.Number.Basic
import Probing.Text.Basic

/-!
# Decimal text of a number

A number is written with the fewest significant digits that read back as the same number, and among
those with the digits nearest to it. The digits stand positionally from 10^-6 up to 10^21 and with
an exponent outside.

## Main definitions

* `Number.Digits`: significant digits with the place of the decimal point
* `Number.shortest`: the fewest digits that read back
* `Number.Digits.text`: positional or exponential notation
* `Number.text`: the text of any number
-/

namespace Probing.Number

/-- The positive decimal `0.d₁d₂… * 10 ^ point` whose digits `d₁d₂…` spell `significand`. -/
structure Digits where
  significand : Nat
  point : Int
deriving DecidableEq

/-- `m * 10 ^ e` as a rational. -/
def ofDecimal (m : Nat) (e : Int) : Rat :=
  if 0 ≤ e then ((m * Nat.pow 10 e.toNat : Nat) : Rat) else mkRat m (Nat.pow 10 (-e).toNat)

/-- The least `k` with `num / den < 10 ^ k`, for a positive fraction. The difference of the two
digit counts is this number or one less. -/
def decimalPoint (num den : Nat) : Int :=
  let k : Int := (Text.ofNat num).length - (Text.ofNat den).length
  let reached := if 0 ≤ k then den * Nat.pow 10 k.toNat ≤ num else den ≤ num * Nat.pow 10 (-k).toNat
  if reached then k + 1 else k

/-- Of the two neighbours of `num / den` among the decimals with `places` digits after the point
`point`, the nearest that reads back as `num / den`. -/
def neighbour? (num den : Nat) (point : Int) (places : Nat) : Option Nat :=
  let e := point - places
  let scaled :=
    if 0 ≤ e then (num, den * Nat.pow 10 e.toNat) else (num * Nat.pow 10 (-e).toNat, den)
  let floor := scaled.1 / scaled.2
  let nearest := halfEven scaled.1 scaled.2
  let other := if nearest = floor then floor + 1 else floor
  let readsBack := fun m : Nat => roundRat? (ofDecimal m e) == some (mkRat num den)
  if readsBack nearest then some nearest
  else if readsBack other then some other
  else none

/-- A significand without its trailing zeros. -/
def stripZeros (m : Nat) : Nat :=
  if h : 0 < m ∧ m % 10 = 0 then stripZeros (m / 10) else m
termination_by m
decreasing_by omega

/-- The digits with the fewest places that read back, searching from `places` on. -/
def searchDigits (num den : Nat) (point : Int) : (fuel places : Nat) → Digits
  | 0, places => ⟨num * Nat.pow 10 places / den, point⟩
  | fuel + 1, places =>
    match neighbour? num den point places with
    | some m =>
      let carried : Int := (Text.ofNat m).length - places
      ⟨stripZeros m, point + carried⟩
    | none => searchDigits num den point fuel (places + 1)

/-- The fewest digits that read back as the positive double `num / den`. Seventeen always do for a
fraction, and an integer reads back with all of its digits. -/
def shortest (num den : Nat) : Digits :=
  let point := decimalPoint num den
  searchDigits num den point (17 + point.toNat) 1

/-- The notation of digits: positional while the point lies at most 21 places to the right of the
first digit and at most 6 to its left, exponential otherwise. -/
def Digits.text (d : Digits) : Text :=
  let digits := Text.ofNat d.significand
  let zeros := fun n : Nat => List.replicate n (unit '0')
  if digits.length ≤ d.point ∧ d.point ≤ 21 then
    digits ++ zeros (d.point - digits.length).toNat
  else if 0 < d.point ∧ d.point ≤ 21 then
    digits.take d.point.toNat ++ unit '.' :: digits.drop d.point.toNat
  else if -6 < d.point ∧ d.point ≤ 0 then
    ("0." : Text) ++ zeros (-d.point).toNat ++ digits
  else
    let exponent := d.point - 1
    let fraction := if digits.length = 1 then [] else unit '.' :: digits.drop 1
    let sign := if exponent < 0 then unit '-' else unit '+'
    digits.take 1 ++ fraction ++ unit 'e' :: sign :: Text.ofNat exponent.natAbs

/-- The text of a positive rational. Integers in the exact range are written out digit by digit. -/
def magnitudeText (num den : Nat) : Text :=
  if den = 1 ∧ num ≤ exactBound then Text.ofNat num else (shortest num den).text

/-- The text of a number. -/
def text : Number → Text
  | nan => "NaN"
  | infinite false => "Infinity"
  | infinite true => "-Infinity"
  | finite q =>
    if q.num < 0 then unit '-' :: magnitudeText q.num.natAbs q.den
    else magnitudeText q.num.natAbs q.den

end Probing.Number
