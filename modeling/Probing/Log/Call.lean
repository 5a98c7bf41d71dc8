import Probing.Log.Entry
import Probing.Log.ErrorValue
import Probing.Log.Request

/-!
# Calls to a logger

A call hands over named fields of any kind, maybe a refusal, and maybe a message. It becomes an
entry, and the entry a line. An error is shown, and a field with a reserved name is treated, only
while the line is written, so a call below the level of its logger never fails.

## Main definitions

* `Log.Call`: a call to a logger
* `Log.Call.entry`: the entry a call becomes, its error not yet shown
* `Log.Call.line`, `Log.Call.lines`: the line of a call, and the lines that a logger writes for it
-/

namespace Probing.Log

/-- A call to a logger. -/
structure Call where
  level : Level
  component : Option Text := none
  fields : List (Text × Json) := []
  /-- The refusal of a source of slots, the error of the call. -/
  refusal : Option Text := none
  message : Option Json := none

namespace Call

/-- The fields describe a request. -/
def isRequest (call : Call) : Bool :=
  Request.isRequest call.fields

/-- The fields of the entry of a call. Fields that describe a request are shown as one. A refusal
takes the place of another error. -/
def entryFields (call : Call) : List (Text × Json) :=
  if call.isRequest then [("req", Request.describe call.fields)]
  else
    match call.refusal with
    | some reason => Json.setField call.fields errorField (refusalField reason).2
    | none => call.fields

/-- The message of the entry of a call. Without a message of its own, neither given nor among its
fields, an entry takes the one of its error. -/
def entryMessage (call : Call) : Option Json :=
  let fields := call.entryFields
  call.message <|>
    if (Json.valueOf? fields messageField).isSome then none
    else (Json.valueOf? fields errorField).bind (Json.field? "message")

/-- The entry of a call. -/
def entry (call : Call) : Entry :=
  { level := call.level
    component := call.component
    fields := call.entryFields
    message := call.entryMessage }

/-- The text that stands for the value of a part in the line of a call. A refusal is written as it
is, any other error as errors are shown. -/
def partText (call : Call) (part : Text × Json) : Except FieldError (Option Text) :=
  if part.1 = errorField ∧ call.refusal.isNone then
    (ErrorValue.shown part.2).map fun value => some value.compact
  else fieldText part.1 part.2

/-- The line of a call, with the line feed that ends it. The first part that cannot be written is
an error. -/
def line (call : Call) : Except FieldError Text := do
  let written (part : Text × Json) : Except FieldError (Option Text) := do
    return (← call.partText part).map fun value => Json.quoted part.1 ++ ":" ++ value
  return "\x7b" ++ Text.join "," (← call.entry.parts.filterMapM written) ++ "\x7d\n"

/-- The lines that a logger writes for a call: none below its level. -/
def lines (threshold : Threshold) (call : Call) : Except FieldError (List Text) :=
  if threshold.admits call.level then call.line.map fun line => [line] else .ok []

end Call

end Probing.Log
