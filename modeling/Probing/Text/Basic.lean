/-!
# Text as code units

Conditions, patterns and labels are read one UTF-16 code unit at a time: error columns, map
glyphs and the length of a text all count code units, and a glyph may be one half of a surrogate
pair. A text is therefore the list of its code units, and nothing here requires the units to pair
up.

## Main definitions

* `CodeUnit`, `Text`: a code unit, and a text as the list of its units
* `unit`: the unit of a character outside the supplementary planes
* `Text.ofString`, `Text.toString`: the units of a string, also used as a coercion, and back
* `Text.ofNat`: the decimal digits of a number
* `digit?`: the value of a decimal digit
-/

namespace Probing

/-- A UTF-16 code unit. -/
abbrev CodeUnit := UInt16

/-- A text: its code units in order. -/
abbrev Text := List CodeUnit

/-- The code unit of a character below U+10000. -/
def unit (c : Char) : CodeUnit :=
  c.toNat.toUInt16

/-- A unit that opens a surrogate pair. -/
def CodeUnit.isHighSurrogate (u : CodeUnit) : Bool :=
  0xD800 ≤ u && u ≤ 0xDBFF

/-- A unit that closes a surrogate pair. -/
def CodeUnit.isLowSurrogate (u : CodeUnit) : Bool :=
  0xDC00 ≤ u && u ≤ 0xDFFF

/-- The value of a decimal digit, nothing for any other unit. -/
def digit? (u : CodeUnit) : Option Nat :=
  if unit '0' ≤ u ∧ u ≤ unit '9' then some (u.toNat - 48) else none

namespace Text

/-- The code units of a code point: itself below U+10000, a surrogate pair from there on. -/
def ofCodePoint (n : Nat) : Text :=
  if n < 0x10000 then [n.toUInt16]
  else [(0xD800 + (n - 0x10000) / 0x400).toUInt16, (0xDC00 + (n - 0x10000) % 0x400).toUInt16]

/-- The code units of a string. -/
def ofString (s : String) : Text :=
  s.toList.flatMap fun c => ofCodePoint c.toNat

instance : Coe String Text := ⟨ofString⟩

/-- The code points of a text. A surrogate without its partner stands for itself. -/
def codePoints (t : Text) : List Nat :=
  t.foldr (fun u later =>
    match later with
    | low :: rest =>
      if u.isHighSurrogate ∧ 0xDC00 ≤ low ∧ low ≤ 0xDFFF then
        (0x10000 + (u.toNat - 0xD800) * 0x400 + (low - 0xDC00)) :: rest
      else u.toNat :: low :: rest
    | [] => [u.toNat]) []

/-- The string of a text. A surrogate without its partner becomes the replacement character. -/
def toString (t : Text) : String :=
  String.ofList (t.codePoints.map fun n =>
    if 0xD800 ≤ n ∧ n ≤ 0xDFFF then '\uFFFD' else Char.ofNat n)

/-- The decimal digits of a number, without leading zeros. -/
def ofNat (n : Nat) : Text :=
  if n < 10 then [(48 + n).toUInt16] else ofNat (n / 10) ++ [(48 + n % 10).toUInt16]

/-- The decimal digits of an integer, with a minus sign in front of a negative one. -/
def ofInt : Int → Text
  | .ofNat n => ofNat n
  | .negSucc n => unit '-' :: ofNat (n + 1)

/-- The text as the only one of a list when the condition holds, no text otherwise. -/
def onlyIf (condition : Bool) (t : Text) : List Text :=
  if condition then [t] else []

/-- The texts joined with a separator between neighbours. -/
def join (separator : Text) (parts : List Text) : Text :=
  List.intercalate separator parts

/-- The lines of a text: what stands between its line feeds. There is always at least one. -/
def lines (t : Text) : List Text :=
  t.foldr (fun u later =>
    match later with
    | [] => [[u]]
    | line :: rest => if u = unit '\n' then [] :: line :: rest else (u :: line) :: rest) [[]]

/-- The lines of a text joined by line feeds. -/
def unlines (lines : List Text) : Text :=
  join "\n" lines

end Text

end Probing
