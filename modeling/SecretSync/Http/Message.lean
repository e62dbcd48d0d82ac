import SecretSync.Json.Reader
import SecretSync.Json.Writer
import SecretSync.Program.Basic

/-!
# `SecretSync.Http.Message`: requests to an API server and their replies

A request has a method, an address and sometimes a JSON body. The reply is a
status with a body, or there is none: the server may never answer, and the
connection may break.

A body is JSON or any text. Either can be asked for as the other, as a client
does that reads what came over the wire.
-/

set_option autoImplicit false

namespace SecretSync

/-- What a request does. -/
inductive HttpMethod where
  | get | post | put | patch
  deriving DecidableEq, Repr

/-- The name of a method. -/
def HttpMethod.name : HttpMethod → String
  | .get => "GET"
  | .post => "POST"
  | .put => "PUT"
  | .patch => "PATCH"

/-- A request: the query is a list of decoded names and values. -/
structure HttpRequest where
  method : HttpMethod
  path : String
  query : List (String × String) := []
  body : Option Json := none

/-- The body of a reply. -/
inductive HttpBody where
  | json (value : Json)
  | text (value : String)

namespace HttpBody

/-- The body as JSON; a text is read. -/
def json? : HttpBody → Option Json
  | .json j => some j
  | .text s => Json.read? s

/-- The body as text; JSON is written. -/
def asText : HttpBody → String
  | .json j => j.render
  | .text s => s

end HttpBody

/-- The reply to a request. -/
inductive HttpReply where
  | response (status : Nat) (body : HttpBody)
  /-- The server does not answer. -/
  | noAnswer
  /-- The connection broke, with this complaint and what lies behind it. -/
  | broken (complaint : String) (behind : List String)

/-- The interface of an API server. -/
def httpInterface : Interface := ⟨HttpRequest, fun _ => HttpReply⟩

/-- A program that talks to an API server. -/
abbrev HttpProgram (α : Type) := Program httpInterface α

/-- Sends a request. -/
def HttpRequest.send (r : HttpRequest) : HttpProgram HttpReply := Program.ask (I := httpInterface) r

end SecretSync
