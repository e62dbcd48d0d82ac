import SecretSync.Api.RemoteSecrets
import SecretSync.Api.Secrets
import SecretSync.Binding.Handler

/-!
# `SecretSync.Command.Basic`: programs for the command line

A command talks to a cluster: it makes the requests of a store of secrets,
fetches the resources that own secrets, and replaces the targets in their
status. `ClusterRequest` collects these, and `apiClient` carries them out by
requests to an API server.

A command ends well or with a `Failure`, a message with the messages of what
lies behind it. Failures are told in words only; what a command does next
never depends on them.
-/

set_option autoImplicit false

namespace SecretSync

/-- A request of a command to its cluster. -/
inductive ClusterRequest where
  | store (r : StoreRequest)
  /-- Fetches the resource of a namespace and name. -/
  | fetch (ns name : String)
  /-- Replaces the targets in the status of a resource. -/
  | recordTargets (ns name : String) (targets : List TargetStatus)

/-- What a cluster replies. -/
abbrev ClusterRequest.Reply : ClusterRequest → Type
  | .store r => r.Reply
  | _ => Except ApiFailure RemoteSecret

/-- The interface of a cluster. -/
abbrev clusterInterface : Interface := ⟨ClusterRequest, ClusterRequest.Reply⟩

/-- A program that talks to a cluster. -/
abbrev ClusterProgram (α : Type) := Program clusterInterface α

/-- Fetches a resource. -/
def fetchRemoteSecret (ns name : String) : ClusterProgram (Except ApiFailure RemoteSecret) :=
  Program.ask (I := clusterInterface) (.fetch ns name)

/-- Replaces the targets in the status of a resource. -/
def recordTargets (ns name : String) (targets : List TargetStatus) :
    ClusterProgram (Except ApiFailure RemoteSecret) :=
  Program.ask (I := clusterInterface) (.recordTargets ns name targets)

/-- Runs a program that talks to the store of a cluster. -/
def onStore {α : Type} (p : StoreProgram α) : ClusterProgram α :=
  p.refine fun r => Program.ask (I := clusterInterface) (.store r)

/-- Carries out the requests of a command on an API server, allowing each request about a secret
a limited time. -/
def apiClient (limit : Duration) : (r : ClusterRequest) → HttpProgram r.Reply
  | .store r => SecretApi.client limit r
  | .fetch ns name => RemoteSecretApi.fetch ns name
  | .recordTargets ns name targets => RemoteSecretApi.patchTargets ns name targets

/-- Runs a command on an API server. -/
def onApi {α : Type} (limit : Duration) (p : ClusterProgram α) : HttpProgram α :=
  Program.refine (I := clusterInterface) (apiClient limit) p

/-- Why a command failed: a message, and the messages of what lies behind it, the nearest first. -/
structure Failure where
  message : String
  causes : List String := []
  deriving DecidableEq, Repr

namespace Failure

/-- All messages, the outermost first. -/
def chain (f : Failure) : List String := f.message :: f.causes

/-- The failure of what was attempted when this one is the reason. -/
def within (f : Failure) (attempt : String) : Failure := ⟨attempt, f.chain⟩

/-- A failed request to an API server. -/
def ofApi (e : ApiFailure) : Failure := ⟨e.message, e.causes⟩

/-- A failed store request. -/
def ofStore (e : StoreError) : Failure := ⟨e.message, []⟩

/-- A refused marking. -/
def ofMarker (e : MarkerError) : Failure := ⟨e.message, []⟩

/-- A target that cannot be handled. -/
def ofTarget (e : TargetError) : Failure := ⟨e.message, []⟩

/-- Missing data. -/
def ofProvider (e : ProviderError) : Failure := ⟨e.message, e.causes⟩

/-- A failed deployment target. -/
def ofSync (e : SyncError) : Failure := ⟨e.message, e.causes⟩

/-- Further lines of a message, set in by some blanks. -/
def indented (first rest : String) (message : String) : List String :=
  match Text.splitAll '\n' message with
  | [] => [first]
  | line :: lines => (first ++ line) :: lines.map (rest ++ ·)

/-- A number with blanks in front, five characters wide. -/
def listNumber (n : Nat) : String :=
  let digits := toString n
  String.ofList (List.replicate (5 - digits.length) ' ') ++ digits

/-- The numbered lines of several causes. -/
def numberedCauses (n : Nat) : List String → List String
  | [] => []
  | cause :: rest =>
    indented (listNumber n ++ ": ") "       " cause ++ numberedCauses (n + 1) rest

/-- The lines about what lies behind a failure. A single cause has no number. -/
def causeLines : List String → List String
  | [] => []
  | [cause] => ["", "Caused by:"] ++ indented "    " "    " cause
  | causes => ["", "Caused by:"] ++ numberedCauses 0 causes

/-- The lines that tell a failure. -/
def report (f : Failure) : List String :=
  Text.splitAll '\n' ("Error: " ++ f.message) ++ causeLines f.causes

end Failure

/-- What becomes of a command. -/
abbrev CommandResult := Except Failure Unit

/-- A text filled up with blanks to some width. -/
def padded (width : Nat) (text : String) : String :=
  text ++ String.ofList (List.replicate (width - text.length) ' ')

end SecretSync
