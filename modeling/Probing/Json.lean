import Probing.Number.Decimal
import Probing.Text.Basic

/-!
# JSON values

Log entries and the message about an unexpected value are JSON. An object keeps its fields in
order; numbers that are not finite are written as `null`.

## Main definitions

* `Json`: a JSON value
* `Json.objectOf`: the object that a list of fields describes
* `Json.compact`: the text of a value without blanks
* `Json.plainText`: the text of a value as part of a sentence
* `Json.plainText?`: that text, for a value that has one
-/

namespace Probing

/-- A JSON value. -/
inductive Json where
  | null
  | bool (value : Bool)
  | number (value : Number)
  | text (value : Text)
  | array (items : List Json)
  | object (fields : List (Text × Json))
deriving Inhabited

namespace Json

/-! ## Objects -/

/-- The value of the field with a name. -/
def valueOf? (fields : List (Text × Json)) (name : Text) : Option Json :=
  fields.lookup name

/-- The value of a field of an object. -/
def field? (name : Text) : Json → Option Json
  | object fields => valueOf? fields name
  | _ => none

/-- A field of the given value, no field when there is none. -/
def part (name : Text) (value : Option Json) : List (Text × Json) :=
  (value.map fun value => (name, value)).toList

/-- The fields with one of them set: in its old place if it has one, at the end otherwise. -/
def setField (fields : List (Text × Json)) (name : Text) (value : Json) : List (Text × Json) :=
  if fields.any fun field => field.1 = name then
    fields.map fun field => if field.1 = name then (name, value) else field
  else fields ++ [(name, value)]

/-- The index a field name spells in decimal, if it is one. Names of this kind come first in an
object, in increasing order. -/
def index? (name : Text) : Option Nat :=
  match name.mapM digit? with
  | none => none
  | some digits =>
    let n := digits.foldl (fun value d => value * 10 + d) 0
    if Text.ofNat n = name ∧ n < 4294967295 then some n else none

/-- Puts a field with a numeric name in front of the larger ones. -/
def insertIndexed (index : Nat) (field : Text × Json) : List (Nat × Text × Json) →
    List (Nat × Text × Json)
  | [] => [(index, field)]
  | other :: rest =>
    if index < other.1 then (index, field) :: other :: rest
    else other :: insertIndexed index field rest

/-- The object described by fields in the order in which they were given. A repeated field keeps its
first place and its last value. -/
def objectOf (fields : List (Text × Json)) : Json :=
  let merged := fields.foldl (fun merged field => setField merged field.1 field.2) []
  let indexed := merged.foldl (fun sorted field =>
    match index? field.1 with
    | some index => insertIndexed index field sorted
    | none => sorted) []
  let named := merged.filter fun field => (index? field.1).isNone
  object (indexed.map Prod.snd ++ named)

/-- A value holds something: it is neither missing, false, zero, not-a-number nor an empty text. -/
def isTruthy : Json → Bool
  | null => false
  | bool b => b
  | number n => n ≠ .ofNat 0 && n ≠ .nan
  | text t => t ≠ []
  | array _ | object _ => true

/-! ## Text -/

/-- The lower-case hexadecimal digit of a number below sixteen. -/
def hexDigit (n : Nat) : CodeUnit :=
  if n < 10 then (48 + n).toUInt16 else (87 + n).toUInt16

/-- A code unit as a numeric escape. -/
def numericEscape (u : CodeUnit) : Text :=
  let n := u.toNat
  ("\\u" : Text)
    ++ [hexDigit (n / 4096), hexDigit (n / 256 % 16), hexDigit (n / 16 % 16), hexDigit (n % 16)]

/-- The escape of a unit that cannot stand for itself inside quotes. -/
def escape? (u : CodeUnit) : Option Text :=
  if u = unit '"' then some "\\\""
  else if u = unit '\\' then some "\\\\"
  else if u = 0x08 then some "\\b"
  else if u = 0x09 then some "\\t"
  else if u = 0x0A then some "\\n"
  else if u = 0x0C then some "\\f"
  else if u = 0x0D then some "\\r"
  else if u < 0x20 then some (numericEscape u)
  else none

/-- The content of a quoted text. A surrogate without its partner is escaped. -/
def quotedContent : Text → Text
  | [] => []
  | [u] =>
    if u.isHighSurrogate || u.isLowSurrogate then numericEscape u else (escape? u).getD [u]
  | u :: v :: rest =>
    if u.isHighSurrogate && v.isLowSurrogate then u :: v :: quotedContent rest
    else if u.isHighSurrogate || u.isLowSurrogate then numericEscape u ++ quotedContent (v :: rest)
    else (escape? u).getD [u] ++ quotedContent (v :: rest)

/-- A text between quotes. -/
def quoted (t : Text) : Text :=
  unit '"' :: quotedContent t ++ [unit '"']

mutual

/-- The text of a value without any blank. -/
def compact : Json → Text
  | null => "null"
  | bool true => "true"
  | bool false => "false"
  | number (.finite q) => (Number.finite q).text
  | number _ => "null"
  | text t => quoted t
  | array items => unit '[' :: Text.join "," (compactItems items) ++ [unit ']']
  | object fields => unit '\x7b' :: Text.join "," (compactFields fields) ++ [unit '\x7d']

/-- The texts of the items of an array. -/
def compactItems : List Json → List Text
  | [] => []
  | item :: rest => compact item :: compactItems rest

/-- The texts of the fields of an object. -/
def compactFields : List (Text × Json) → List Text
  | [] => []
  | (name, value) :: rest => (quoted name ++ unit ':' :: compact value) :: compactFields rest

end

mutual

/-- The text of a value as part of a sentence: a text stands for itself, the items of an array have
commas between them. -/
def plainText : Json → Text
  | null => "null"
  | bool true => "true"
  | bool false => "false"
  | number n => n.text
  | text t => t
  | array items => Text.join "," (plainItems items)
  | object _ => "[object Object]"

/-- The texts of the items of an array as part of a sentence, nothing for a missing one. -/
def plainItems : List Json → List Text
  | [] => []
  | null :: rest => [] :: plainItems rest
  | item :: rest => plainText item :: plainItems rest

end

mutual

/-- A value can be part of a sentence. An object whose own field hides its text cannot. -/
def hasPlainText : Json → Bool
  | array items => haveItemsPlainText items
  | object fields => (valueOf? fields "toString").isNone
  | _ => true

/-- The items of an array can be part of a sentence. -/
def haveItemsPlainText : List Json → Bool
  | [] => true
  | item :: rest => hasPlainText item && haveItemsPlainText rest

end

/-- The text of a value as part of a sentence, nothing for a value that cannot be part of one. -/
def plainText? (value : Json) : Option Text :=
  if value.hasPlainText then some value.plainText else none

end Json

end Probing
