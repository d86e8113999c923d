import PlanetServer.Json.Basic

/-!
# Messages from the client

A message with an identifier and a method is a request, one with only a method is a notification,
and one with only an identifier and a result or an error is a response.
-/

namespace PlanetServer

/-- A message from the client. -/
inductive Incoming where
  /-- A message that has to be answered. -/
  | request (id : Json) (method : String) (params : Json)
  /-- A message that is not answered. -/
  | notification (method : String) (params : Json)
  /-- The answer to a request of the server. -/
  | response (id : Json)

/-- The value, unless it is null. -/
def Json.nonNull? : Json → Option Json
  | .null => none
  | json => some json

/-- The message that a frame holds, none if it holds no message. -/
def Incoming.ofFrame? (frame : Json) : Option Incoming :=
  let id := (frame.get? "id").bind Json.nonNull?
  let method := (frame.get? "method").bind Json.string?
  let params := (frame.get? "params").getD .null
  match id, method with
  | some id, some method => some (.request id method params)
  | none, some method => some (.notification method params)
  | some id, none =>
    if (frame.get? "result").isSome || (frame.get? "error").isSome then some (.response id)
    else none
  | none, none => none

end PlanetServer
