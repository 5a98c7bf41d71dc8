import Probing.Number.Rounding

/-!
# Numbers

Counts, counters, sizes and exit codes are double-precision numbers: a caller may hand over a
fraction, an infinity or no number at all, and each has its place in comparisons, sums and
messages. A finite number is kept as the rational it stands for; a sum is the exact sum rounded
once. The two zeros are one, since nothing that is printed or compared tells them apart.

## Main definitions

* `Number`: not-a-number, the two infinities and the finite numbers
* `Number.ofRat`: the number nearest to a rational
* `Number.blt`, `Number.ble`: the order, in which not-a-number is below and above nothing
* `Number.add`, `Number.sub`, `Number.min`: arithmetic
* `Number.positiveInteger?`: the integers that can bound a count
-/

namespace Probing

/-- A double-precision number. -/
inductive Number where
  | nan
  | infinite (negative : Bool)
  | finite (value : Rat)
deriving DecidableEq

namespace Number

/-- The number of an integer, taken as it is. -/
def ofInt (n : Int) : Number := finite n

/-- The number of a natural number, taken as it is. -/
def ofNat (n : Nat) : Number := finite n

instance : Coe Nat Number := ⟨ofNat⟩

instance : Inhabited Number := ⟨ofNat 0⟩

/-- The number nearest to a rational, an infinity when the rational is too large. -/
def ofRat (q : Rat) : Number :=
  match roundRat? q with
  | some value => finite value
  | none => infinite (q.num < 0)

/-- Strictly below. -/
def blt : Number → Number → Bool
  | nan, _ | _, nan => false
  | finite a, finite b => a < b
  | infinite negative, finite _ => negative
  | finite _, infinite negative => !negative
  | infinite a, infinite b => a && !b

/-- Below or equal. -/
def ble : Number → Number → Bool
  | nan, _ | _, nan => false
  | finite a, finite b => a ≤ b
  | infinite negative, finite _ => negative
  | finite _, infinite negative => !negative
  | infinite a, infinite b => a || !b

/-- The opposite number. -/
def neg : Number → Number
  | nan => nan
  | infinite negative => infinite (!negative)
  | finite a => finite (-a)

/-- The rounded sum. Opposite infinities have none. -/
def add : Number → Number → Number
  | nan, _ | _, nan => nan
  | finite a, finite b => ofRat (a + b)
  | infinite a, infinite b => if a = b then infinite a else nan
  | infinite a, finite _ | finite _, infinite a => infinite a

/-- The rounded difference. -/
def sub (a b : Number) : Number :=
  a.add b.neg

/-- The smaller of two numbers, not-a-number when one of them is. -/
def min : Number → Number → Number
  | nan, _ | _, nan => nan
  | a, b => if a.ble b then a else b

/-- The integer a number stands for. -/
def toInt? : Number → Option Int
  | finite q => if q.den = 1 then some q.num else none
  | _ => none

/-- The largest integer that counts are allowed to reach: from there on neighbouring integers share
a number. -/
def maxCount : Nat := exactBound - 1

/-- The positive integer a number stands for, if it is small enough to be counted up to. -/
def positiveInteger? (n : Number) : Option Nat :=
  match n.toInt? with
  | some i => if 0 < i ∧ i ≤ maxCount then some i.toNat else none
  | none => none

end Number

end Probing
