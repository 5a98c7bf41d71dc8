import Probing.Log.Field

/-!
# Error values

A log entry shows an error by its type, its message and its stack, followed by its other fields.
Every object whose message is a text counts as an error. The message is followed by the messages of
its causes, and likewise the stack, each of which then has to have a text; the errors that an error
gathers are shown one by one.

## Main definitions

* `ErrorValue.isError`: the values that count as errors
* `ErrorValue.fullMessage`, `ErrorValue.fullStack`: message and stack with those of the causes
* `ErrorValue.shown`: a value as an entry shows it
-/

namespace Probing.Log.ErrorValue

/-- The message among the fields of an error. -/
def message? (fields : List (Text × Json)) : Option Text :=
  match Json.valueOf? fields "message" with
  | some (.text message) => some message
  | _ => none

/-- A value counts as an error. -/
def isError : Json → Bool
  | .object fields => (message? fields).isSome
  | _ => false

mutual

/-- The message of an error and those of its causes, with colons between them. A value that is no
error has none. -/
def fullMessage : Json → Text
  | .object fields =>
    match message? fields with
    | some message => message ++ causeMessage fields
    | none => []
  | _ => []

/-- What the cause among the fields of an error adds to its message. -/
def causeMessage : List (Text × Json) → Text
  | [] => []
  | (name, value) :: rest =>
    if name = "cause" then
      if isError value then ": " ++ fullMessage value else []
    else causeMessage rest

end

/-- The stack among the fields of an error, an empty text when there is none. -/
def ownStack (fields : List (Text × Json)) : Json :=
  ((Json.valueOf? fields "stack").filter Json.isTruthy).getD (.text [])

mutual

/-- The stack of an error and those of its causes, each under a heading. Below another stack every
stack is a text. -/
def fullStack : Json → Except FieldError Json
  | .object fields =>
    match causeStack? fields with
    | some below => do
      let own ← plainText (ownStack fields)
      return .text (own ++ "\ncaused by: " ++ (← below))
    | none => .ok (ownStack fields)
  | _ => .ok (.text [])

/-- The stack of the cause among the fields of an error, as a text. -/
def causeStack? : List (Text × Json) → Option (Except FieldError Text)
  | [] => none
  | (name, value) :: rest =>
    if name = "cause" then
      if isError value then some ((fullStack value).bind plainText) else none
    else causeStack? rest

end

/-- The type of an error. One that brings a constructor of its own goes by its name. -/
def type? (fields : List (Text × Json)) : Option Json :=
  if (Json.valueOf? fields "constructor").isSome then Json.valueOf? fields "name"
  else some (.text "Object")

/-- A field does not show among the other fields of an error: it is shown already, it has a name
that is reserved, or it is the cause, whose message is part of the message. -/
def isHidden (first : List (Text × Json)) (field : Text × Json) : Bool :=
  (Json.valueOf? first field.1).isSome || reservedNames.contains field.1
    || decide (field.1 = "raw") || (decide (field.1 = "cause") && isError field.2)

/-- What the description of an error starts with. `gathered` are the errors it gathers. -/
def leading (fields : List (Text × Json)) (gathered : Option Json) :
    Except FieldError (List (Text × Json)) := do
  let stack ← fullStack (.object fields)
  return Json.part "type" (type? fields)
    ++ Json.part "message" (some (.text (fullMessage (.object fields))))
    ++ Json.part "stack" (some stack) ++ Json.part "aggregateErrors" gathered

mutual

/-- A value as an entry shows it: an error by its description, any other value as it is. -/
def shown : Json → Except FieldError Json
  | .object fields =>
    if (message? fields).isSome then do
      let first ← leading fields (← gathered? fields)
      return .objectOf (first ++ (← shownFields first fields))
    else .ok (.object fields)
  | value => .ok value

/-- The items of an array as an entry shows them. -/
def shownItems : List Json → Except FieldError (List Json)
  | [] => .ok []
  | item :: rest => do
    let item ← shown item
    return item :: (← shownItems rest)

/-- The fields of an error that show behind its first ones, as an entry shows them. -/
def shownFields (first : List (Text × Json)) :
    List (Text × Json) → Except FieldError (List (Text × Json))
  | [] => .ok []
  | (name, value) :: rest =>
    if isHidden first (name, value) then shownFields first rest
    else do
      let value ← shown value
      return (name, value) :: (← shownFields first rest)

/-- The errors that an error gathers, as an entry shows them. -/
def gathered? : List (Text × Json) → Except FieldError (Option Json)
  | [] => .ok none
  | (name, .array items) :: rest =>
    if name = "errors" then (shownItems items).map fun items => some (.array items)
    else gathered? rest
  | (name, _) :: rest => if name = "errors" then .ok none else gathered? rest

end

end Probing.Log.ErrorValue
