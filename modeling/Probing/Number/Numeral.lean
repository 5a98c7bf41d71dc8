import Probing.Number.Basic
import Probing.Text.Blank

/-!
# Numerals

The number a text denotes. Blanks around a numeral are ignored and a blank text is zero. A numeral
is a decimal with optional sign, fraction and exponent, or `Infinity` with an optional sign, or an
unsigned hexadecimal, octal or binary integer behind `0x`, `0o` or `0b`. Every other text denotes
not-a-number. The exact value is rounded once.

## Main definitions

* `Number.radixValue?`: a string of digits in a base
* `Number.decimal?`: an unsigned decimal
* `Number.ofText`: any text
-/

namespace Probing.Number

/-- The value of a digit in a base of at most sixteen, letters of either case standing for ten and
above. -/
def radixDigit? (base : Nat) (u : CodeUnit) : Option Nat :=
  let value? :=
    match digit? u with
    | some d => some d
    | none =>
      if unit 'a' ≤ u ∧ u ≤ unit 'f' then some (u.toNat - 87)
      else if unit 'A' ≤ u ∧ u ≤ unit 'F' then some (u.toNat - 55)
      else none
  value?.filter (· < base)

/-- The value of a list of digits, the most significant first. -/
def ofDigits (base : Nat) (digits : List Nat) : Nat :=
  digits.foldl (fun value d => value * base + d) 0

/-- The value of a non-empty string of digits in a base. -/
def radixValue? (base : Nat) (t : Text) : Option Nat :=
  if t = [] then none else (t.mapM (radixDigit? base)).map (ofDigits base)

/-- The digits a text starts with, and what follows them. -/
def spanDigits (t : Text) : List Nat × Text :=
  (t.takeWhile (fun u => (digit? u).isSome) |>.filterMap digit?,
    t.dropWhile fun u => (digit? u).isSome)

/-- The number `0.d₁d₂… * 10 ^ point` for a list of digits. Far outside the range of doubles the
digits do not matter. -/
def ofDigitsAt (digits : List Nat) (point : Int) : Number :=
  let significant := digits.dropWhile (· = 0)
  let point := point - (digits.length - significant.length : Nat)
  if significant = [] ∨ point < -400 then ofNat 0
  else if 400 < point then infinite false
  else
    let e := point - significant.length
    let m := ofDigits 10 significant
    ofRat
      (if 0 ≤ e then ((m * Nat.pow 10 e.toNat : Nat) : Rat) else mkRat m (Nat.pow 10 (-e).toNat))

/-- The exponent at the end of a decimal: nothing at all, or a letter, an optional sign and
digits. -/
def exponent? : Text → Option Int
  | [] => some 0
  | u :: rest =>
    if u = unit 'e' ∨ u = unit 'E' then
      match rest with
      | [] => none
      | sign :: digits =>
        if sign = unit '-' then (radixValue? 10 digits).map fun n => -(n : Int)
        else if sign = unit '+' then (radixValue? 10 digits).map Int.ofNat
        else (radixValue? 10 (sign :: digits)).map Int.ofNat
    else none

/-- An unsigned decimal: digits before or behind the point, at least one in all, and an exponent. -/
def decimal? (t : Text) : Option Number :=
  let whole := spanDigits t
  let fraction :=
    match whole.2 with
    | u :: rest => if u = unit '.' then spanDigits rest else ([], whole.2)
    | [] => ([], [])
  if whole.1 = [] ∧ fraction.1 = [] then none
  else
    (exponent? fraction.2).map fun e =>
      ofDigitsAt (whole.1 ++ fraction.1) (whole.1.length + e)

/-- An unsigned decimal or the word for infinity. -/
def magnitude? (t : Text) : Option Number :=
  if t = ("Infinity" : Text) then some (infinite false) else decimal? t

/-- The base a letter behind a leading zero announces. -/
def radix? (u : CodeUnit) : Option Nat :=
  if u = unit 'x' ∨ u = unit 'X' then some 16
  else if u = unit 'o' ∨ u = unit 'O' then some 8
  else if u = unit 'b' ∨ u = unit 'B' then some 2
  else none

/-- A numeral without blanks around it. -/
def numeral? (t : Text) : Option Number :=
  match t with
  | [] => some (ofNat 0)
  | first :: rest =>
    let radix :=
      if first = unit '0' then rest.head?.bind radix? else none
    match radix with
    | some base => (radixValue? base (rest.drop 1)).map fun n => ofRat n
    | none =>
      if first = unit '-' then (magnitude? rest).map neg
      else if first = unit '+' then magnitude? rest
      else magnitude? t

/-- The number a text denotes. -/
def ofText (t : Text) : Number :=
  (numeral? t.trim).getD nan

end Probing.Number
