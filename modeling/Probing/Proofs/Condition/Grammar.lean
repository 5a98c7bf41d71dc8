import Probing.Condition.Basic
import Probing.Number.Numeral

/-!
# The grammar of conditions

A condition text is a sign, a count, a location flag and option tokens behind a colon. The
grammar is kept apart from the readers: a phrase says how a text is put together and what it
asks for, and neither refers to the order in which a reader meets the parts. Each report flag is
set when a token that asks for it occurs anywhere, and of several maps the last one counts.

## Main definitions

* `decimalValue`, `Numeral`: a string of digits and its exact value, within the range of counts
* `MapArguments`, `Token`: an option as it is written
* `Phrase`, `Phrase.written`, `Phrase.writtenWith`: a whole condition, its text, and that text with
  another count
* `Phrase.condition`: the condition a phrase denotes
-/

namespace Probing.Condition

/-! ## Numerals -/

/-- The value of a string of decimal digits. -/
def decimalValue (digits : Text) : Nat :=
  Number.ofDigits 10 (digits.filterMap digit?)

/-- A string of decimal digits, leading zeros included, with a value that can be counted up to. -/
structure Numeral where
  digits : Text
  all_digits : ∀ u ∈ digits, (digit? u).isSome
  value_pos : 0 < decimalValue digits
  value_le : decimalValue digits ≤ Number.maxCount
deriving DecidableEq

/-- The value of a numeral. -/
def Numeral.value (numeral : Numeral) : Nat :=
  decimalValue numeral.digits

/-- A numeral of one digit. -/
def Numeral.single (u : CodeUnit) (hdigit : (digit? u).isSome) (hpos : 0 < decimalValue [u])
    (hle : decimalValue [u] ≤ Number.maxCount) : Numeral where
  digits := [u]
  all_digits := by
    intro v hv
    rwa [List.mem_singleton.mp hv]
  value_pos := hpos
  value_le := hle

/-! ## Options -/

/-- The glyphs behind the colon of map arguments: two units that do not close the arguments. -/
structure GlyphPair where
  success : CodeUnit
  failure : CodeUnit
  success_ne : success ≠ unit ')'
  failure_ne : failure ≠ unit ')'
deriving DecidableEq

/-- The arguments of a map: a size, glyphs or both. -/
structure MapArguments where
  size : Option Numeral
  glyphs : Option GlyphPair
  nonempty : size.isSome ∨ glyphs.isSome
deriving DecidableEq

/-- An option as it is written. -/
inductive Token where
  | exitStatus
  | silent
  | state
  | bothCounts
  /-- One count, of the outcome a sign selects. -/
  | count (sign : Option Outcome)
  | map (arguments : Option MapArguments)
deriving DecidableEq

/-- The text of glyphs, with the colon in front of them. -/
def GlyphPair.written (pair : GlyphPair) : Text :=
  [unit ':', pair.success, pair.failure]

/-- The text of map arguments without their parentheses. -/
def MapArguments.written (arguments : MapArguments) : Text :=
  arguments.size.elim [] Numeral.digits ++ arguments.glyphs.elim [] GlyphPair.written

/-- The sign that selects an outcome. -/
def signOf : Outcome → CodeUnit
  | .success => unit '+'
  | .failure => unit '-'

/-- The text of an option. -/
def Token.written : Token → Text
  | exitStatus => [unit 'x']
  | silent => [unit 'q']
  | state => [unit 'c']
  | bothCounts => [unit 'N']
  | count none => [unit 'n']
  | count (some shown) => [signOf shown, unit 'n']
  | map none => [unit 'm']
  | map (some arguments) => unit 'm' :: unit '(' :: arguments.written ++ [unit ')']

/-- A token asks for the count of `shown`. A bare count is that of the outcome which is not
counted. -/
def Token.shows (counting shown : Outcome) : Token → Bool
  | bothCounts => true
  | count sign => sign.getD counting.opposite = shown
  | _ => false

/-- The glyphs a pair stands for. -/
def GlyphPair.glyphs (pair : GlyphPair) : Glyphs :=
  ⟨[pair.success], [pair.failure]⟩

/-- The map that arguments describe. -/
def MapArguments.request (defaultCapacity : Number) (arguments : MapArguments) : MapRequest where
  maxCapacity := arguments.size.elim defaultCapacity fun size => .ofNat size.value
  glyphs := arguments.glyphs.elim .standard GlyphPair.glyphs

/-- The map a token asks for. -/
def Token.mapRequest? (defaultCapacity : Number) : Token → Option MapRequest
  | map none => some ⟨defaultCapacity, .standard⟩
  | map (some arguments) => some (arguments.request defaultCapacity)
  | _ => none

/-- The report option a token stands for. -/
def Token.option (counting : Outcome) (defaultCapacity : Number) : Token → ReportOption
  | exitStatus => .exitStatus
  | silent => .silent
  | state => .state
  | bothCounts => .bothCounts
  | count sign => .count (sign.getD counting.opposite)
  | map none => .map ⟨defaultCapacity, .standard⟩
  | map (some arguments) => .map (arguments.request defaultCapacity)

/-- A token can stand in front of `rest`: an opening parenthesis would be taken for the start of its
arguments, unless it has them already. -/
def Token.CanPrecede (token : Token) (rest : Text) : Prop :=
  rest.head? = some (unit '(') → ∃ arguments, token = map (some arguments)

/-- What tokens ask of the end of a run. -/
def requestOf (counting : Outcome) (defaultCapacity : Number) (tokens : List Token) :
    ReportRequest where
  exitStatus := .exitStatus ∈ tokens
  showSuccesses := tokens.any (Token.shows counting .success)
  showFailures := tokens.any (Token.shows counting .failure)
  showState := .state ∈ tokens
  silent := .silent ∈ tokens
  map := (tokens.filterMap (Token.mapRequest? defaultCapacity)).getLast?

/-! ## Whole conditions -/

/-- The parts of a condition text. -/
structure Phrase where
  negative : Bool
  count : Numeral
  consecutive : Bool
  /-- What stands behind the colon, if there is one. -/
  options : Option (List Token)
deriving DecidableEq

namespace Phrase

/-- The tokens of a phrase. -/
def tokens (phrase : Phrase) : List Token :=
  phrase.options.getD []

/-- The text behind the count of a phrase. -/
def writtenTail (phrase : Phrase) : Text :=
  (if phrase.consecutive then [unit 's'] else [])
    ++ phrase.options.elim [] fun tokens => unit ':' :: tokens.flatMap Token.written

/-- The text of a phrase. -/
def written (phrase : Phrase) : Text :=
  (if phrase.negative then [unit '-'] else []) ++ phrase.count.digits ++ phrase.writtenTail

/-- The text of a phrase with other digits in the place of its count. -/
def writtenWith (phrase : Phrase) (digits : Text) : Text :=
  (if phrase.negative then [unit '-'] else []) ++ digits ++ phrase.writtenTail

/-- The outcome a phrase counts. -/
def counting (phrase : Phrase) : Outcome :=
  if phrase.negative then .failure else .success

/-- Where the counted outcomes of a phrase have to lie. -/
def location (phrase : Phrase) : Location :=
  if phrase.consecutive then .sequence else .cumulative

/-- The condition a phrase denotes. A map without a size gets `defaultCapacity`. -/
def condition (defaultCapacity : Number) (phrase : Phrase) : Condition where
  source := phrase.written
  expect := .ofNat phrase.count.value
  counting := phrase.counting
  location := phrase.location
  report := requestOf phrase.counting defaultCapacity phrase.tokens

end Phrase

end Probing.Condition
