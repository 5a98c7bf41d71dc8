import Probing.Json
import Probing.Log.Level

/-!
# Fields in the line of an entry

The line of an entry holds its fields as JSON. How a field is written is looked up by its name, and
a reserved name stands for something in every table of names: a test, a search, a definition or a
conversion, all of them made for a table. A field with a reserved name is written by what its name
stands for, with no table to work on. Most of them fail then, some leave the field out, and some
write a text that is no JSON.

## Main definitions

* `Log.FieldError`, `Log.FieldError.message`: why a field cannot be written
* `Log.fieldText`: the text of the value of a field
-/

namespace Probing.Log

/-- Why a field cannot be written. -/
inductive FieldError where
  /-- The name stands for a test on a table, and there is no table. -/
  | noTable
  /-- The name stands for the text of a value, and there is no value. -/
  | noValue
  /-- The name stands for a definition, and a value defines nothing. -/
  | noDefinition (name : Text)
  /-- The name stands for a table, which writes nothing. -/
  | noWriter
  /-- The value has no text. -/
  | noText
deriving DecidableEq, Repr

/-- The wording of a failure to write a field. -/
def FieldError.message : FieldError → Text
  | noTable => "Cannot convert undefined or null to object"
  | noValue => "Object.prototype.toLocaleString called on null or undefined"
  | noDefinition name => "Object.prototype." ++ name ++ ": Expecting function"
  | noWriter => "serializers[key] is not a function"
  | noText => "Cannot convert object to primitive value"

/-- The plain text of a value, which has to have one. -/
def plainText (value : Json) : Except FieldError Text :=
  match value.plainText? with
  | some t => .ok t
  | none => .error .noText

/-- The text that stands for the value of a field in the line of an entry, nothing for a field that
is left out. -/
def fieldText (name : Text) (value : Json) : Except FieldError (Option Text) :=
  if name = "constructor" then
    let object : Json := if value matches .null then .object [] else value
    (plainText object).map some
  else if name = "isPrototypeOf" then .ok (some "false")
  else if name = "toString" then .ok (some "[object Undefined]")
  else if name = "toLocaleString" then .error .noValue
  else if name = "valueOf" then .error .noTable
  else if name = "hasOwnProperty" ∨ name = "propertyIsEnumerable" then do
    let _ ← plainText value
    .error .noTable
  else if name = "__lookupGetter__" ∨ name = "__lookupSetter__" then
    (plainText value).map fun _ => none
  else if name = "__defineGetter__" ∨ name = "__defineSetter__" then .error (.noDefinition name)
  else if name = "__proto__" then .error .noWriter
  else .ok (some value.compact)

end Probing.Log
