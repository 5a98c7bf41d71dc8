import Probing.Json
import Probing.Log.Level

/-!
# Log entries

An entry carries its level, the component it comes from, named fields and a message.

## Main definitions

* `Log.Entry`, `Log.Entry.json`: an entry, and the value that its line holds
* `Log.admitted`: the entries a logger writes
-/

namespace Probing.Log

/-- A log entry. -/
structure Entry where
  level : Level
  component : Option Text := none
  fields : List (Text × Json) := []
  /-- The message, usually a text. -/
  message : Option Json := none

/-- The field that shows an error in an entry. -/
def errorField : Text := "err"

/-- The error field of an entry: the refusal of a source of slots. -/
def refusalField (reason : Text) : Text × Json :=
  (errorField, .object [("type", .text "RangeError"), ("message", .text reason)])

/-- The field that shows a message in an entry. -/
def messageField : Text := "msg"

/-- What an entry shows, part by part. -/
def Entry.parts (entry : Entry) : List (Text × Json) :=
  Json.part "level" (some (.number entry.level.severity))
    ++ Json.part "component" (entry.component.map Json.text) ++ entry.fields
    ++ Json.part messageField entry.message

/-- The value that the line of an entry holds. A later part takes the place of an earlier one. -/
def Entry.json (entry : Entry) : Json :=
  .objectOf entry.parts

/-- The entries a logger writes. -/
def admitted (threshold : Threshold) (entries : List Entry) : List Entry :=
  entries.filter fun entry => threshold.admits entry.level

end Probing.Log
