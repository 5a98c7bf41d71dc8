import Probing.Text.Basic

/-!
# Defects of a condition text

A text that is no condition is rejected at one position for one reason. The position may lie just
behind the end of the text.
-/

namespace Probing.Condition

/-- Why a text is no condition. -/
inductive Reason where
  | countTooLarge
  | unexpectedStart (found : CodeUnit)
  | repeatedLocation
  | expectedColon (found : CodeUnit)
  | zeroCount
  | endOfOptions
  | unknownOption (found : CodeUnit)
  | misplacedSign
  | unclosedArguments
  | unexpectedArguments (option : CodeUnit)
  | emptyArguments
  | mapSizeTooLarge
  | unexpectedArgument (found : CodeUnit)
  | zeroMapSize
  | glyphCount
deriving DecidableEq, Repr

/-- The wording of a reason. -/
def Reason.message : Reason → Text
  | countTooLarge => "expected count is too large"
  | unexpectedStart found => "unexpected character '" ++ [found] ++ "' at start"
  | repeatedLocation => "repeat loc flag 's'"
  | expectedColon found => "expect ':', got '" ++ [found] ++ "'"
  | zeroCount => "exit condition must define an expected count different from zero"
  | endOfOptions => "unexpected end of option string"
  | unknownOption found => "invalid option '" ++ [found] ++ "'"
  | misplacedSign => "+/- modifiers only allowed for 'n' option"
  | unclosedArguments => "unexpected end-of-string looking for ')'"
  | unexpectedArguments option => "option '" ++ [option] ++ "' does not expect arguments"
  | emptyArguments => "empty argument list for option 'm'"
  | mapSizeTooLarge => "'m' arg map size is too large"
  | unexpectedArgument found =>
    "invalid character (" ++ [found] ++ ") in args to option 'm', expecting digit or ':'"
  | zeroMapSize => "'m' arg map size must be >0"
  | glyphCount => "expecting exactly 2 characters after ':' in 'm' args"

/-- A rejected text with the place and the reason of its rejection. -/
structure Defect where
  input : Text
  /-- The index of the rejected unit, the length of the input when it ended too early. -/
  position : Nat
  reason : Reason
deriving DecidableEq, Repr

namespace Defect

/-- The column of a defect, counted from one. -/
def column (defect : Defect) : Nat :=
  defect.position + 1

/-- The rejected unit, absent behind the end of the text. -/
def character? (defect : Defect) : Option CodeUnit :=
  defect.input[defect.position]?

end Defect

end Probing.Condition
