import SecretSync.Http.Exchange
import SecretSync.Store.Basic

/-!
# `SecretSync.Api.Secrets`: the API server as a store of secrets

`SecretApi.client` carries out the four requests of a store by requests to an
API server. Each is sent once and may take a limited time. The failures of
the server become those of a store; a request that is not answered in time is
a failure of its own.
-/

set_option autoImplicit false

namespace SecretSync

namespace SecretApi

/-- The part of the program that talks to the server about secrets, as log records name it. -/
def logOrigin : String := "remote_secret_controller::binding::store"

/-- The path of the secrets of a namespace. -/
def collection (ns : String) : String := "/api/v1/namespaces/" ++ ns ++ "/secrets"

/-- The path of a secret. -/
def member (ns name : String) : String := collection ns ++ "/" ++ name

/-- The parameters that ask for the objects that pass a filter. -/
def filterParameters (filter : ListFilter) : List (String × String) :=
  if filter.selector.isEmpty then [] else [("labelSelector", filter.selector)]

/-- The request to the server that a store request is. -/
def request : StoreRequest → Except ApiFailure HttpRequest
  | .get ns name =>
    if name.isEmpty then .error .unnamed else HttpRequest.build .get (member ns name) [] none
  | .create ns secret => HttpRequest.build .post (collection ns) [] (some secret.toJson)
  | .update ns secret =>
    if secret.name.isEmpty then .error .unnamed
    else HttpRequest.build .put (member ns secret.name) [] (some secret.toJson)
  | .list ns filter => HttpRequest.build .get (collection ns) (filterParameters filter) none

/-- Reads a list of secrets. What the list says about itself must be an object if it is there;
null in place of the items stands for none. -/
def listOfJson? (j : Json) : Option (List Secret) := do
  let fields ← j.obj?
  let _ ← Document.withDefault [] Json.obj? (Json.findField "metadata" fields)
  let items ← Json.findField "items" fields
  let secrets ← Document.optional (Document.list? Secret.ofJson?) (some items)
  pure (secrets.getD [])

/-- A field of a log record for a value that may be absent. -/
def optionalText (name : String) : Option String → List (String × LogValue)
  | some value => [(name, .text value)]
  | none => []

/-- The log record of a request. -/
def logRecord : StoreRequest → LogRecord
  | .get ns name =>
    ⟨.debug, logOrigin, "getting secret", [("namespace", .text ns), ("name", .text name)]⟩
  | .create ns secret =>
    ⟨.debug, logOrigin, "creating secret",
      [("namespace", .text ns)] ++ optionalText "name" secret.metadata.name ++
        optionalText "generate_name" secret.metadata.generateName⟩
  | .update ns secret =>
    ⟨.debug, logOrigin, "updating secret",
      [("namespace", .text ns)] ++ optionalText "name" secret.metadata.name⟩
  | .list ns filter =>
    ⟨.debug, logOrigin, "listing secrets",
      [("namespace", .text ns), ("selector", .text filter.selector)]⟩

/-- Sends a request that may take a limited time. With no time at all it is not even sent. -/
def exchange {α : Type} (limit : Duration) (ofJson? : Json → Option α) :
    Except ApiFailure HttpRequest → HttpProgram (Except StoreError α)
  | .error e => return .error (.ofApiFailure e)
  | .ok r =>
    if limit.nanos = 0 then return .error (.timeout limit)
    else do
      match (← r.send).read ofJson? with
      | none => return .error (.timeout limit)
      | some (.error e) => return .error (.ofApiFailure e)
      | some (.ok resource) => return .ok resource

/-- Logs a request and sends it. -/
def perform {α : Type} (limit : Duration) (ofJson? : Json → Option α) (r : StoreRequest) :
    HttpProgram (Except StoreError α) := do
  Program.log (logRecord r)
  exchange limit ofJson? (request r)

/-- The complaint about an update that does not say of what. -/
def namelessUpdate : StoreError := .other "cannot update a secret without a name"

/-- Carries out the requests of a store. -/
def client (limit : Duration) : (r : StoreRequest) → HttpProgram r.Reply
  | .get ns name => perform limit Secret.ofJson? (.get ns name)
  | .create ns secret => perform limit Secret.ofJson? (.create ns secret)
  | .update ns secret =>
    match secret.metadata.name with
    | none => return .error namelessUpdate
    | some _ => perform limit Secret.ofJson? (.update ns secret)
  | .list ns filter => perform limit listOfJson? (.list ns filter)

end SecretApi

end SecretSync
