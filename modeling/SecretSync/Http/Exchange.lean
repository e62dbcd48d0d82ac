import SecretSync.Http.Address
import SecretSync.Http.Message
import SecretSync.Http.StatusText

/-!
# `SecretSync.Http.Exchange`: asking for a resource

`HttpRequest.build` makes a request for a path, which is refused if the path
cannot be an address. `HttpReply.read` finds in a reply the resource that was
asked for, or the reason why it is not there. A reply with an error status
should hold an error description; what it says counts more than the status
itself. A reply with any other status should hold the resource.
-/

set_option autoImplicit false

namespace SecretSync

/-- The request for a path with some parameters. -/
def HttpRequest.build (method : HttpMethod) (path : String)
    (parameters : List (String × String)) (body : Option Json) : Except ApiFailure HttpRequest :=
  match Http.readAddress (path ++ "?") with
  | none => .error .invalidAddress
  | some (cleanPath, query) =>
    -- What follows a number sign does not reach the server, parameters included.
    let extra := if path.toList.contains '#' then [] else parameters
    .ok { method := method, path := cleanPath, query := query ++ extra, body := body }

namespace Rejection

/-- A text field of an error description, empty if it is left out. -/
def descriptionText (name : String) (fields : List (String × Json)) : Option String :=
  Document.withDefault "" Json.str? (Json.findField name fields)

/-- Reads an error description. -/
def ofJson? (j : Json) : Option Rejection := do
  let fields ← Document.knownFields? ["status", "message", "reason", "code"] j
  let status ← Document.required Json.str? (Json.findField "status" fields)
  let message ← descriptionText "message" fields
  let reason ← descriptionText "reason" fields
  let code ← Document.required Json.nat? (Json.findField "code" fields)
  if code ≤ 0xFFFF then
    pure { status := status, message := message, reason := reason, code := code }
  else none

/-- The error that a reply without a description amounts to. -/
def undescribed (status : Nat) (text : String) : Rejection where
  status := statusText status
  message := Text.quoted text
  reason := "Failed to parse error data"
  code := status

/-- The error of a reply. -/
def ofBody (status : Nat) (body : HttpBody) : Rejection :=
  match body.json?.bind ofJson? with
  | some r => r
  | none => undescribed status body.asText

/-- The description of an error. -/
def toJson (r : Rejection) : Json :=
  .obj [("status", .str r.status), ("message", .str r.message), ("reason", .str r.reason),
    ("code", Json.ofNat r.code)]

end Rejection

/-- Whether a status says that the request failed. -/
def isErrorStatus (status : Nat) : Bool := 400 ≤ status && status < 600

namespace HttpReply

/-- The reply that rejects a request. -/
def rejecting (r : Rejection) : HttpReply := .response r.code (.json r.toJson)

/-- The reply that holds a resource. -/
def holding (resource : Json) : HttpReply := .response 200 (.json resource)

/-- The resource in a reply; nothing if there was no answer. -/
def read {α : Type} (ofJson? : Json → Option α) : HttpReply → Option (Except ApiFailure α)
  | .noAnswer => none
  | .broken complaint behind => some (.error (.disconnected complaint behind))
  | .response status body =>
    some <|
      if isErrorStatus status then .error (.rejected (.ofBody status body))
      else match body.json?.bind ofJson? with
        | some resource => .ok resource
        | none => .error .unreadable

end HttpReply

end SecretSync
