import Probing.Condition.Basic
import Probing.Condition.Defect

/-!
# Reading conditions

A condition is written `[-]<count>[s][:<options>]`. The sign selects lost probes, `s` asks for
consecutive ones, and the options are any of `x n N m q c` in any order: `n` takes a sign that
selects the count to show, `m` takes `(<size>)`, `(:<glyphs>)` or `(<size>:<glyphs>)` with two
glyphs. The count is tested against zero last, so that every other defect is reported first.

Every reader below works on the rest of the text and reports a defect relative to its start.

## Main definitions

* `Condition.readDigits`: a count or size
* `Condition.readMapArguments`, `Condition.readOption`, `Condition.readOptions`: the options
* `Condition.readLocation`: what stands between the count and the options
* `Condition.parse`: a whole condition
-/

namespace Probing.Condition

/-- Where and why a reader gave up, counted from where it started. -/
structure Stop where
  offset : Nat
  reason : Reason
deriving DecidableEq, Repr

/-- The same stop seen from `n` units earlier. -/
def Stop.shift (n : Nat) (stop : Stop) : Stop :=
  { stop with offset := n + stop.offset }

/-! ## Counts -/

/-- A number read from the front of a text. -/
structure DigitRun where
  value : Nat
  /-- How many digits it took. -/
  length : Nat
  rest : Text
deriving DecidableEq, Repr

/-- Reads digits on top of the `length` digits already read, whose value is `value`. The digit that
takes the value beyond the largest count is an error at its offset. -/
def readDigits (value length : Nat) : Text → Except Nat DigitRun
  | [] => .ok ⟨value, length, []⟩
  | u :: rest =>
    match digit? u with
    | none => .ok ⟨value, length, u :: rest⟩
    | some d =>
      if value * 10 + d ≤ Number.maxCount then readDigits (value * 10 + d) (length + 1) rest
      else .error length

/-! ## Options -/

/-- The option letters. -/
inductive Letter where
  | x | n | bothCounts | m | q | c
deriving DecidableEq, Repr

/-- The letter a unit stands for. -/
def Letter.ofUnit? (u : CodeUnit) : Option Letter :=
  if u = unit 'x' then some x
  else if u = unit 'n' then some n
  else if u = unit 'N' then some bothCounts
  else if u = unit 'm' then some m
  else if u = unit 'q' then some q
  else if u = unit 'c' then some c
  else none

/-- The outcome a sign in front of `n` selects. -/
def signed? (u : CodeUnit) : Option Outcome :=
  if u = unit '+' then some .success else if u = unit '-' then some .failure else none

/-- The glyphs behind the size of a map: none at all, or a colon and exactly two units. -/
def readGlyphs (offset : Nat) : Text → Except Stop Glyphs
  | [] => .ok .standard
  | _ :: [success, failure] => .ok ⟨[success], [failure]⟩
  | _ :: _ => .error ⟨offset + 1, .glyphCount⟩

/-- The arguments of `m`, given without their parentheses. -/
def readMapArguments (defaultCapacity : Number) (arguments : Text) : Except Stop MapRequest :=
  if arguments = [] then .error ⟨0, .emptyArguments⟩
  else
    match readDigits 0 0 arguments with
    | .error offset => .error ⟨offset, .mapSizeTooLarge⟩
    | .ok size =>
      match size.rest.head? with
      | some u =>
        if u = unit ':' then
          sized size
        else .error ⟨size.length, .unexpectedArgument u⟩
      | none => sized size
where
  /-- The request once the size is known to end well. -/
  sized (size : DigitRun) : Except Stop MapRequest :=
    if 0 < size.length ∧ size.value = 0 then .error ⟨size.length, .zeroMapSize⟩
    else
      match readGlyphs size.length size.rest with
      | .error stop => .error stop
      | .ok glyphs =>
        .ok ⟨if 0 < size.length then size.value else defaultCapacity, glyphs⟩

/-- An option with the offset of its last unit. -/
structure OptionRun where
  option : ReportOption
  last : Nat
deriving DecidableEq

/-- The option of a letter without arguments. A bare `n` shows the outcome that is not counted. -/
def plainOption (counting : Outcome) (defaultCapacity : Number) (shown : Option Outcome) :
    Letter → ReportOption
  | .x => .exitStatus
  | .n => .count (shown.getD counting.opposite)
  | .bothCounts => .bothCounts
  | .m => .map ⟨defaultCapacity, .standard⟩
  | .q => .silent
  | .c => .state

/-- Reads a letter and its arguments behind the sign `shown`. Arguments run up to the first closing
parenthesis. -/
def readLetter (counting : Outcome) (defaultCapacity : Number) (shown : Option Outcome) :
    Text → Except Stop OptionRun
  | [] => .error ⟨0, .endOfOptions⟩
  | u :: rest =>
    match Letter.ofUnit? u with
    | none => .error ⟨0, .unknownOption u⟩
    | some letter =>
      if shown.isSome ∧ letter ≠ .n then .error ⟨0, .misplacedSign⟩
      else if rest.head? = some (unit '(') then
        let inner := rest.drop 1
        if unit ')' ∈ inner then
          let arguments := inner.takeWhile (· ≠ unit ')')
          if letter = .m then
            match readMapArguments defaultCapacity arguments with
            | .error stop => .error (stop.shift 2)
            | .ok request => .ok ⟨.map request, arguments.length + 2⟩
          else .error ⟨2, .unexpectedArguments u⟩
        else .error ⟨inner.length + 2, .unclosedArguments⟩
      else .ok ⟨plainOption counting defaultCapacity shown letter, 0⟩

/-- Reads one option. -/
def readOption (counting : Outcome) (defaultCapacity : Number) (text : Text) :
    Except Stop OptionRun :=
  match text with
  | [] => .error ⟨0, .endOfOptions⟩
  | u :: rest =>
    match signed? u with
    | none => readLetter counting defaultCapacity none text
    | some shown =>
      match readLetter counting defaultCapacity (some shown) rest with
      | .error stop => .error (stop.shift 1)
      | .ok run => .ok { run with last := run.last + 1 }

/-- Reads options up to the end of the text and applies them to a report, the first one first. The
text starts at `position`, from which on defects are counted. -/
def readOptions (counting : Outcome) (defaultCapacity : Number) (report : ReportRequest)
    (position : Nat) (text : Text) : Except Stop ReportRequest :=
  match text with
  | [] => .ok report
  | u :: rest =>
    match readOption counting defaultCapacity (u :: rest) with
    | .error stop => .error (stop.shift position)
    | .ok run =>
      readOptions counting defaultCapacity (run.option.apply report) (position + run.last + 1)
        (rest.drop run.last)
termination_by text.length
decreasing_by simp only [List.length_cons, List.length_drop]; omega

/-! ## Conditions -/

/-- Reads the location flag and the colon behind the count, and returns with the location the
options and the position where they start. -/
def readLocation (location : Location) (position : Nat) :
    Text → Except Stop (Location × Nat × Text)
  | [] => .ok (location, position, [])
  | u :: rest =>
    if u = unit ':' then .ok (location, position + 1, rest)
    else if u = unit 's' then
      match location with
      | .sequence => .error ⟨position, .repeatedLocation⟩
      | .cumulative => readLocation .sequence (position + 1) rest
    else .error ⟨position, .expectedColon u⟩

/-- The counted outcome, the length of the sign and the text behind it. -/
def splitSign : Text → Outcome × Nat × Text
  | [] => (.success, 0, [])
  | u :: rest => if u = unit '-' then (.failure, 1, rest) else (.success, 0, u :: rest)

/-- Reads a whole text. Without a sign the first unit has to be a digit; behind a sign a missing
count is left to the test against zero. -/
def read (defaultCapacity : Number) (text : Text) : Except Stop Condition :=
  let (counting, start, unsigned) := splitSign text
  match readDigits 0 0 unsigned with
  | .error offset => .error ⟨start + offset, .countTooLarge⟩
  | .ok count =>
    match (if start = 0 ∧ count.length = 0 then text.head? else none) with
    | some found => .error ⟨0, .unexpectedStart found⟩
    | none =>
      match readLocation .cumulative (start + count.length) count.rest with
      | .error stop => .error stop
      | .ok (location, position, options) =>
        match readOptions counting defaultCapacity {} position options with
        | .error stop => .error stop
        | .ok report =>
          if count.value = 0 then .error ⟨0, .zeroCount⟩
          else .ok ⟨text, count.value, counting, location, report⟩

/-- The condition a text denotes. A map without a size gets `defaultCapacity`. -/
def parse (defaultCapacity : Number) (text : Text) : Except Defect Condition :=
  (read defaultCapacity text).mapError fun stop => ⟨text, stop.offset, stop.reason⟩

end Probing.Condition
