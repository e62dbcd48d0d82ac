import SecretSync.Http.Exchange
import SecretSync.Resource.RemoteSecret

/-!
# `SecretSync.Api.RemoteSecrets`: the resources that own secrets on an API server

Two requests are enough: fetching a resource, and replacing the targets in
its status. The latter is a merge patch of the status; whatever else the
status holds stays.
-/

set_option autoImplicit false

namespace SecretSync

namespace RemoteSecretApi

/-- The path of a resource. -/
def member (ns name : String) : String :=
  "/apis/remotesecret.dev/v1beta1/namespaces/" ++ ns ++ "/remotesecrets/" ++ name

/-- The name under which changes are made. -/
def fieldManager : String := "rsctl"

/-- The patch that replaces the targets in a status. -/
def targetsPatch (targets : List TargetStatus) : Json :=
  .obj [("status", .obj [("targets", Status.targetsToJson targets)])]

/-- The request for a resource. -/
def fetchRequest (ns name : String) : Except ApiFailure HttpRequest :=
  if name.isEmpty then .error .unnamed else HttpRequest.build .get (member ns name) [] none

/-- The request that replaces the targets in the status of a resource. -/
def patchRequest (ns name : String) (targets : List TargetStatus) :
    Except ApiFailure HttpRequest :=
  HttpRequest.build .patch (member ns name ++ "/status") [("fieldManager", fieldManager)]
    (some (targetsPatch targets))

/-- The failure of a request that nobody answers. -/
def unanswered : ApiFailure := .disconnected "no answer" []

/-- Sends a request for a resource. -/
def exchange : Except ApiFailure HttpRequest → HttpProgram (Except ApiFailure RemoteSecret)
  | .error e => return .error e
  | .ok r => do
    match (← r.send).read RemoteSecret.ofDocument? with
    | none => return .error unanswered
    | some result => return result

/-- Fetches a resource. -/
def fetch (ns name : String) : HttpProgram (Except ApiFailure RemoteSecret) :=
  exchange (fetchRequest ns name)

/-- Replaces the targets in the status of a resource. -/
def patchTargets (ns name : String) (targets : List TargetStatus) :
    HttpProgram (Except ApiFailure RemoteSecret) :=
  exchange (patchRequest ns name targets)

end RemoteSecretApi

end SecretSync
