import Probing.Text.Basic

/-!
# Blanks

The code units that separate words: ASCII white space, the space separators of Unicode, the line
and paragraph separators and the zero-width no-break space. Outcome patterns ignore them anywhere,
numerals at both ends.
-/

namespace Probing

/-- A code unit that counts as white space. -/
def CodeUnit.isBlank (u : CodeUnit) : Bool :=
  (0x09 ≤ u && u ≤ 0x0D) || u == 0x20 || u == 0xA0 || u == 0x1680
    || (0x2000 ≤ u && u ≤ 0x200A) || u == 0x2028 || u == 0x2029 || u == 0x202F || u == 0x205F
    || u == 0x3000 || u == 0xFEFF

namespace Text

/-- The text without its leading blanks. -/
def trimStart (t : Text) : Text :=
  t.dropWhile CodeUnit.isBlank

/-- The text without its trailing blanks. -/
def trimEnd (t : Text) : Text :=
  (t.reverse.dropWhile CodeUnit.isBlank).reverse

/-- The text without the blanks at its two ends. -/
def trim (t : Text) : Text :=
  trimEnd (trimStart t)

/-- The text without any blank. -/
def removeBlanks (t : Text) : Text :=
  t.filter fun u => !u.isBlank

end Text

end Probing
