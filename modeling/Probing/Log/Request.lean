import Probing.Json

/-!
# Requests

The fields of a log call describe a request when they hold its method, its headers and a socket.
Such a call is logged with one field, the request, reduced to what identifies it.

## Main definitions

* `Request.isRequest`: whether fields describe a request
* `Request.describe`: the request that fields describe
-/

namespace Probing.Log.Request

/-- The field with a name, unless it is empty. -/
def given? (fields : List (Text × Json)) (name : Text) : Option Json :=
  (Json.valueOf? fields name).filter Json.isTruthy

/-- Fields describe a request. -/
def isRequest (fields : List (Text × Json)) : Bool :=
  (given? fields "method").isSome && (given? fields "headers").isSome
    && (given? fields "socket").isSome

/-- The address that a request asks for. -/
def url? (fields : List (Text × Json)) : Option Json :=
  match given? fields "originalUrl", Json.valueOf? fields "path" with
  | some url, _ => some url
  | none, some (.text path) => some (.text path)
  | none, _ =>
    (given? fields "url").map fun url => ((url.field? "path").filter Json.isTruthy).getD url

/-- The connection that a request came over. -/
def connection? (fields : List (Text × Json)) : Option Json :=
  given? fields "info" <|> given? fields "socket"

/-- The identity of a request. -/
def id? (fields : List (Text × Json)) : Option Json :=
  given? fields "id" <|> (given? fields "info").bind (Json.field? "id")

/-- The request that fields describe. -/
def describe (fields : List (Text × Json)) : Json :=
  let connection := connection? fields
  .object (Json.part "id" (id? fields)
    ++ Json.part "method" (given? fields "method")
    ++ Json.part "url" (url? fields)
    ++ Json.part "query" (given? fields "query")
    ++ Json.part "params" (given? fields "params")
    ++ Json.part "headers" (given? fields "headers")
    ++ Json.part "remoteAddress" (connection.bind (Json.field? "remoteAddress"))
    ++ Json.part "remotePort" (connection.bind (Json.field? "remotePort")))

end Probing.Log.Request
