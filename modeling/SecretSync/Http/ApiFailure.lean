import SecretSync.Text.Quoted

/-!
# `SecretSync.Http.ApiFailure`: why a request to the API server failed

A request can fail on this side, because it cannot be built; on the way,
because the connection breaks; and on the other side, because the server
answers with an error or with something that is not the expected resource.
`message` is the text of a failure and `causes` the texts of what lies behind
it, the nearest first.
-/

set_option autoImplicit false

namespace SecretSync

/-- An error answer of the server. -/
structure Rejection where
  status : String := "Failure"
  message : String := ""
  reason : String := ""
  code : Nat
  deriving DecidableEq, Repr

namespace Rejection

/-- Message and reason of an error answer. -/
def summary (r : Rejection) : String := r.message ++ ": " ++ r.reason

/-- All parts of an error answer. -/
def details (r : Rejection) : String :=
  "ErrorResponse \x7b status: " ++ Text.quoted r.status ++ ", message: " ++
    Text.quoted r.message ++ ", reason: " ++ Text.quoted r.reason ++ ", code: " ++
    toString r.code ++ " \x7d"

end Rejection

/-- Why a request failed. -/
inductive ApiFailure where
  /-- The server answered with an error. -/
  | rejected (r : Rejection)
  /-- The connection failed, with this complaint and what lies behind it. -/
  | disconnected (complaint : String) (behind : List String)
  /-- The answer is not the expected resource. -/
  | unreadable
  /-- A resource without a name cannot be asked for. -/
  | unnamed
  /-- The name or namespace cannot be part of an address. -/
  | invalidAddress
  deriving DecidableEq, Repr

namespace ApiFailure

/-- The text of a failure. -/
def message : ApiFailure → String
  | .rejected r => "ApiError: " ++ r.summary ++ " (" ++ r.details ++ ")"
  | .disconnected complaint _ => "ServiceError: " ++ complaint
  | .unreadable => "Error deserializing response:"
  | .unnamed =>
    "Failed to build request: failed to validate request: A non-empty name is required"
  | .invalidAddress =>
    "Failed to build request: failed to build request: invalid uri character"

/-- What lies behind a failure, the nearest first. -/
def causes : ApiFailure → List String
  | .rejected r => [r.summary]
  | .disconnected complaint behind => complaint :: behind
  | .unreadable => []
  | .unnamed => ["failed to validate request: A non-empty name is required"]
  | .invalidAddress => ["failed to build request: invalid uri character", "invalid uri character"]

end ApiFailure

end SecretSync
