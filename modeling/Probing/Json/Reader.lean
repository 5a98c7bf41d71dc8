import Probing.Json
import Probing.Number.Numeral

/-!
# Reading JSON

A JSON text holds one value, with blanks between its parts. A text that is none is refused at the
first unit that cannot go on, and the refusal shows the neighbourhood of that unit or its position.

Every reader below works on the rest of the text and hands back what it left, never more than it
was given.

## Main definitions

* `Json.Defect`, `Json.Malformed`: what is wrong with a text, and where
* `Json.Malformed.message`: the wording of a refusal
* `Json.readValue`: a value at the front of a text
* `Json.read`: the value of a whole text
-/

namespace Probing.Json

/-! ## Defects -/

/-- What is wrong with a text. -/
inductive Defect where
  /-- No value starts, and no word or number goes on like this. -/
  | unexpected
  /-- No digit stands behind a minus sign. -/
  | missingDigits
  /-- No digit stands behind a point. -/
  | missingFraction
  /-- No digit stands in an exponent. -/
  | missingExponent
  /-- The closing quote of a text is missing. -/
  | openText
  /-- A control unit stands in a text. -/
  | controlUnit
  /-- No such letter stands behind a backslash. -/
  | escapeLetter
  /-- A numeric escape has fewer than four digits. -/
  | escapeDigits
  /-- An array neither goes on nor ends. -/
  | openArray
  /-- An object starts with something else than a name. -/
  | missingName
  /-- Something else than a name stands behind a comma in an object. -/
  | missingNextName
  /-- No colon stands behind a name. -/
  | missingColon
  /-- An object neither goes on nor ends. -/
  | openObject
  /-- Something stands behind the value. -/
  | trailing
deriving DecidableEq, Repr

/-- The wording of a defect, up to its place. -/
def Defect.description : Defect → Text
  | unexpected => "Unexpected token"
  | missingDigits => "No number after minus sign in JSON"
  | missingFraction => "Unterminated fractional number in JSON"
  | missingExponent => "Exponent part is missing a number in JSON"
  | openText => "Unterminated string in JSON"
  | controlUnit => "Bad control character in string literal in JSON"
  | escapeLetter => "Bad escaped character in JSON"
  | escapeDigits => "Bad Unicode escape in JSON"
  | openArray => "Expected ',' or ']' after array element in JSON"
  | missingName => "Expected property name or '\x7d' in JSON"
  | missingNextName => "Expected double-quoted property name in JSON"
  | missingColon => "Expected ':' after property name in JSON"
  | openObject => "Expected ',' or '\x7d' after property value in JSON"
  | trailing => "Unexpected non-whitespace character after JSON"

/-- A defect, in front of the rest of the text. -/
structure Malformed where
  defect : Defect
  rest : Text
deriving DecidableEq, Repr

/-- How many units a refusal shows before and behind a position. -/
def excerptReach : Nat := 10

/-- The neighbourhood of a position in quotes, with dots where the text goes on. A short text is
shown as a whole. -/
def excerpt (input : Text) (position : Nat) : Text :=
  let inQuotes (t : Text) : Text := "\"" ++ t ++ "\""
  let first := position - excerptReach
  let last := position + excerptReach
  if input.length ≤ 2 * excerptReach then inQuotes input
  else
    (if excerptReach ≤ position then ("..." : Text) else [])
      ++ inQuotes ((input.drop first).take (last - first))
      ++ (if last < input.length then ("..." : Text) else [])

/-- A position with its line and its column, both counted from one. -/
def place (input : Text) (position : Nat) : Text :=
  let before := Text.lines (input.take position)
  let column := (before.getLast?.getD []).length + 1
  "position " ++ Text.ofNat position ++ " (line " ++ Text.ofNat before.length ++ " column "
    ++ Text.ofNat column ++ ")"

/-- The wording of the refusal of a text. -/
def Malformed.message (input : Text) (found : Malformed) : Text :=
  let position := input.length - found.rest.length
  let placed (description : Text) : Text := description ++ " at " ++ place input position
  match found.defect, found.rest with
  | .unexpected, [] => "Unexpected end of JSON input"
  | .unexpected, u :: _ =>
    if u = unit '-' ∨ (digit? u).isSome then placed "Unexpected number in JSON"
    else if u = unit '"' then placed "Unexpected string in JSON"
    else
      found.defect.description ++ " '" ++ [u] ++ "', " ++ excerpt input position
        ++ " is not valid JSON"
  | defect, _ => placed defect.description

/-! ## Parts of a value -/

/-- What a reader found, and the rest that it left of the text `given`. -/
structure Taken (α : Type) (given : Text) where
  value : α
  rest : Text
  length_rest_le : rest.length ≤ given.length

/-- The outcome of a reader of the text `given`. -/
abbrev Reading (α : Type) (given : Text) := Except Malformed (Taken α given)

/-- The blanks that may stand between the parts of a value. -/
def isSpace (u : CodeUnit) : Bool :=
  u = 0x20 || u = 0x09 || u = 0x0A || u = 0x0D

/-- The rest of a text behind the blanks at its front. -/
def skipSpace (input : Text) : Text :=
  input.dropWhile isSpace

theorem length_lt_of_skipSpace_eq_cons {input rest : Text} {u : CodeUnit}
    (h : skipSpace input = u :: rest) : rest.length < input.length := by
  have hle : (skipSpace input).length ≤ input.length := (List.dropWhile_sublist _).length_le
  rw [h, List.length_cons] at hle
  exact hle

/-- Accepts a word at the front of a text. -/
def expectWord : Text → Text → Except Malformed Unit
  | [], _ => .ok ()
  | _ :: _, [] => .error ⟨.unexpected, []⟩
  | w :: word, u :: rest =>
    if u = w then expectWord word rest else .error ⟨.unexpected, u :: rest⟩

/-! ### Numbers -/

/-- The digits at the front of a text, at least one. -/
def digits (defect : Defect) (input : Text) : Except Malformed Text :=
  let found := input.takeWhile fun u => (digit? u).isSome
  if found = [] then .error ⟨defect, input⟩ else .ok found

/-- The digits in front of the point. Only zero itself starts with a zero. -/
def wholePart (input : Text) : Except Malformed Text := do
  let found ← digits .missingDigits input
  if found.head? = some (unit '0') ∧ 1 < found.length then .error ⟨.unexpected, input.drop 1⟩
  else return found

/-- The point and the digits behind it, if there is a point. -/
def fractionPart : Text → Except Malformed Text
  | [] => .ok []
  | u :: rest =>
    if u = unit '.' then (digits .missingFraction rest).map fun found => u :: found else .ok []

/-- The exponent with its letter and its sign, if there is one. -/
def exponentPart : Text → Except Malformed Text
  | [] => .ok []
  | u :: rest =>
    if u = unit 'e' ∨ u = unit 'E' then
      let sign := (rest.take 1).filter fun v => v = unit '+' || v = unit '-'
      (digits .missingExponent (rest.drop sign.length)).map fun found => u :: sign ++ found
    else .ok []

/-- The numeral at the front of a text. -/
def numeral (input : Text) : Except Malformed Text := do
  let sign := (input.take 1).filter fun u => u = unit '-'
  let unsigned := input.drop sign.length
  let whole ← wholePart unsigned
  let fraction ← fractionPart (unsigned.drop whole.length)
  let exponent ← exponentPart (unsigned.drop (whole.length + fraction.length))
  return sign ++ whole ++ fraction ++ exponent

/-! ### Texts -/

/-- The unit that a letter behind a backslash stands for. -/
def escaped? (u : CodeUnit) : Option CodeUnit :=
  if u = unit 'b' then some 0x08
  else if u = unit 't' then some 0x09
  else if u = unit 'n' then some 0x0A
  else if u = unit 'f' then some 0x0C
  else if u = unit 'r' then some 0x0D
  else if u = unit '"' ∨ u = unit '\\' ∨ u = unit '/' then some u
  else none

/-- The text behind one unit is no longer than the text with it. -/
theorem length_le_cons (u : CodeUnit) (rest : Text) : rest.length ≤ (u :: rest).length :=
  Nat.le_succ _

/-- Nor is what is left of it behind four digits. -/
theorem length_drop_le_cons (u : CodeUnit) (rest : Text) :
    (rest.drop 4).length ≤ (u :: rest).length := by
  rw [List.length_drop]
  exact Nat.le_trans (Nat.sub_le _ _) (length_le_cons u rest)

/-- Reads what stands behind a backslash. A unit beyond the first 256 is no letter at all. -/
def readEscape : (input : Text) → Reading CodeUnit input
  | [] => .error ⟨.unexpected, []⟩
  | u :: rest =>
    if u = unit 'u' then
      let found := (rest.take 4).filterMap (Number.radixDigit? 16)
      let length := ((rest.take 4).takeWhile fun v => (Number.radixDigit? 16 v).isSome).length
      if length = 4 then
        .ok ⟨(Number.ofDigits 16 found).toUInt16, rest.drop 4, length_drop_le_cons u rest⟩
      else .error ⟨.escapeDigits, rest.drop length⟩
    else
      match escaped? u with
      | some v => .ok ⟨v, rest, length_le_cons u rest⟩
      | none => .error ⟨if u ≤ 0xFF then .escapeLetter else .unexpected, u :: rest⟩

/-- Reads the content of a text and its closing quote. `done` is what was read before, the last unit
first. -/
def readContent (given : Text) (done : Text) (input : Text) (h : input.length ≤ given.length) :
    Reading Text given :=
  match input with
  | [] => .error ⟨.openText, []⟩
  | u :: rest =>
    have hrest : rest.length < given.length := h
    if u = unit '"' then .ok ⟨done.reverse, rest, Nat.le_of_lt hrest⟩
    else if u < 0x20 then .error ⟨.controlUnit, u :: rest⟩
    else if u = unit '\\' then
      match readEscape rest with
      | .error found => .error found
      | .ok escape =>
        have := escape.length_rest_le
        readContent given (escape.value :: done) escape.rest (by omega)
    else readContent given (u :: done) rest (Nat.le_of_lt hrest)
termination_by input.length
decreasing_by all_goals (simp only [List.length_cons]; omega)

/-! ## Values -/

mutual

/-- Reads a value. -/
def readValue (input : Text) : Reading Json input :=
  match hspace : skipSpace input with
  | [] => .error ⟨.unexpected, []⟩
  | u :: rest =>
    have hrest : rest.length < input.length := length_lt_of_skipSpace_eq_cons hspace
    let word (spelling : Text) (value : Json) : Reading Json input :=
      (expectWord spelling (u :: rest)).map fun _ =>
        ⟨value, rest.drop (spelling.length - 1), by simp; omega⟩
    if u = unit '"' then
      (readContent input [] rest (by omega)).map fun content =>
        { content with value := text content.value }
    else if u = unit '[' then
      match hnext : skipSpace rest with
      | [] => .error ⟨.unexpected, []⟩
      | v :: behind =>
        have := length_lt_of_skipSpace_eq_cons hnext
        if v = unit ']' then .ok ⟨array [], behind, by omega⟩
        else readItems input [] (v :: behind) (by simp only [List.length_cons]; omega)
    else if u = unit '\x7b' then
      match hnext : skipSpace rest with
      | [] => .error ⟨.missingName, []⟩
      | v :: behind =>
        have := length_lt_of_skipSpace_eq_cons hnext
        if v = unit '\x7d' then .ok ⟨object [], behind, by omega⟩
        else readFields input .missingName [] (v :: behind) (by simp only [List.length_cons]; omega)
    else if u = unit 't' then word "true" (bool true)
    else if u = unit 'f' then word "false" (bool false)
    else if u = unit 'n' then word "null" null
    else if u = unit '-' ∨ (digit? u).isSome then
      (numeral (u :: rest)).map fun spelling =>
        ⟨number (Number.ofText spelling), rest.drop (spelling.length - 1), by simp; omega⟩
    else .error ⟨.unexpected, u :: rest⟩
termination_by (input.length, 0)

/-- Reads the items of an array and its closing bracket. `done` are the items read before, the last
one first. -/
def readItems (given : Text) (done : List Json) (input : Text)
    (h : input.length ≤ given.length) : Reading Json given :=
  match readValue input with
  | .error found => .error found
  | .ok item =>
    match hspace : skipSpace item.rest with
    | [] => .error ⟨.openArray, []⟩
    | u :: rest =>
      have := length_lt_of_skipSpace_eq_cons hspace
      have := item.length_rest_le
      if u = unit ',' then readItems given (item.value :: done) rest (by omega)
      else if u = unit ']' then .ok ⟨array (item.value :: done).reverse, rest, by omega⟩
      else .error ⟨.openArray, u :: rest⟩
termination_by (input.length, 1)

/-- Reads the fields of an object and its closing brace. `done` are the fields read before, the last
one first; `defect` is what it means when there is no name. -/
def readFields (given : Text) (defect : Defect) (done : List (Text × Json)) (input : Text)
    (h : input.length ≤ given.length) : Reading Json given :=
  match hspace : skipSpace input with
  | [] => .error ⟨defect, []⟩
  | u :: rest =>
    have hrest := length_lt_of_skipSpace_eq_cons hspace
    if u ≠ unit '"' then .error ⟨defect, u :: rest⟩
    else
      match readContent rest [] rest (Nat.le_refl _) with
      | .error found => .error found
      | .ok name =>
        have hname := name.length_rest_le
        match hcolon : skipSpace name.rest with
        | [] => .error ⟨.missingColon, []⟩
        | v :: behind =>
          have hbehind := length_lt_of_skipSpace_eq_cons hcolon
          if v ≠ unit ':' then .error ⟨.missingColon, v :: behind⟩
          else
            match readValue behind with
            | .error found => .error found
            | .ok value =>
              have hvalue := value.length_rest_le
              match hend : skipSpace value.rest with
              | [] => .error ⟨.openObject, []⟩
              | w :: last =>
                have := length_lt_of_skipSpace_eq_cons hend
                let fields := (name.value, value.value) :: done
                if w = unit ',' then
                  readFields given .missingNextName fields last (by omega)
                else if w = unit '\x7d' then .ok ⟨objectOf fields.reverse, last, by omega⟩
                else .error ⟨.openObject, w :: last⟩
termination_by (input.length, 0)

end

/-- The value of a JSON text. -/
def read (input : Text) : Except Malformed Json :=
  match readValue input with
  | .error found => .error found
  | .ok value =>
    match skipSpace value.rest with
    | [] => .ok value.value
    | u :: rest => .error ⟨.trailing, u :: rest⟩

end Probing.Json
