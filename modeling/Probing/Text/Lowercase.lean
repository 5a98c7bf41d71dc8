import Probing.Text.Basic
import Probing.Text.CaseData

/-!
# Lower case

Lower-casing by the full Unicode rule, without regard to a language. Two letters need more than
the table: the capital sigma becomes a final sigma at the end of a word, and the capital I with a
dot becomes an i followed by a combining dot.
-/

namespace Probing.Text

/-- The small letter of a code point, itself when it is no capital. -/
def lowerCodePoint (c : Nat) : List Nat :=
  if c = 0x130 then [0x69, 0x307]
  else [(capitalRanges.findSome? fun range => range.lower? c).getD c]

/-- The next code point that is not skipped is a letter with case. -/
def startsCased (rest : List Nat) : Bool :=
  match rest.find? fun c => !inRanges caseIgnorableRanges c with
  | some c => inRanges casedRanges c
  | none => false

/-- Lower-cases code points; `afterCased` says that the last one not skipped before them is a letter
with case. -/
def lowerFrom (afterCased : Bool) : List Nat → List Nat
  | [] => []
  | c :: rest =>
    let small :=
      if c = 0x3A3 then (if afterCased && !startsCased rest then [0x3C2] else [0x3C3])
      else lowerCodePoint c
    let after := if inRanges caseIgnorableRanges c then afterCased else inRanges casedRanges c
    small ++ lowerFrom after rest

/-- The text in lower case. -/
def lowercase (t : Text) : Text :=
  (lowerFrom false t.codePoints).flatMap ofCodePoint

end Probing.Text
