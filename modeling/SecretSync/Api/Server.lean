import SecretSync.Cluster.Basic
import SecretSync.Http.Exchange
import SecretSync.Json.MergePatch

/-!
# `SecretSync.Api.Server`: a cluster behind an API server

The server keeps a cluster of secrets and, as documents, the resources that
own secrets. It understands six requests; they are the calls of the cluster,
and hooks may answer them with any reply. A request for anything else is
answered with an error and is not recorded as a call.

The refusals of the cluster become error descriptions: 404 for a missing
object, 409 for a taken name and for a lost race.
-/

set_option autoImplicit false

namespace SecretSync

/-- A cluster behind an API server. The documents are known by namespace and name. -/
structure ApiServer where
  cluster : Cluster HttpReply := .empty
  documents : SortedMap Json := .empty

namespace ApiServer

/-- What a path leads to. -/
inductive Place where
  | secrets (ns : String)
  | secret (ns name : String)
  | document (ns name : String)
  | documentStatus (ns name : String)
  deriving DecidableEq, Repr

/-- The place of a path. -/
def place? (path : String) : Option Place :=
  match Text.splitAll '/' path with
  | ["", "api", "v1", "namespaces", ns, "secrets"] => some (.secrets ns)
  | ["", "api", "v1", "namespaces", ns, "secrets", name] => some (.secret ns name)
  | ["", "apis", "remotesecret.dev", "v1beta1", "namespaces", ns, "remotesecrets", name] =>
    some (.document ns name)
  | ["", "apis", "remotesecret.dev", "v1beta1", "namespaces", ns, "remotesecrets", name,
      "status"] => some (.documentStatus ns name)
  | _ => none

/-! ### Errors -/

/-- The error for a document that does not exist. -/
def missingDocument (name : String) : Rejection where
  message := "remotesecrets.remotesecret.dev \"" ++ name ++ "\" not found"
  reason := "NotFound"
  code := 404

/-- The error for a request that the server does not understand. -/
def unknownRequest : Rejection where
  message := "the server could not find the requested resource"
  reason := "NotFound"
  code := 404

/-- The error for a body that is not what it should be. -/
def badBody : Rejection where
  message := "the body of the request is not the expected resource"
  reason := "BadRequest"
  code := 400

/-- The error that a refusal of the cluster amounts to. -/
def refusalRejection : Refusal → Rejection
  | .notFound name => ⟨"Failure", "secrets \"" ++ name ++ "\" not found", "NotFound", 404⟩
  | .alreadyExists name =>
    ⟨"Failure", "secrets \"" ++ name ++ "\" already exists", "AlreadyExists", 409⟩
  | .conflict name =>
    ⟨"Failure", "Operation cannot be fulfilled on secrets \"" ++ name ++
      "\": the object has been modified", "Conflict", 409⟩

/-- The reply for the outcome of an operation on a secret. -/
def secretReply : Except Refusal Secret → HttpReply
  | .ok secret => .holding secret.toJson
  | .error e => .rejecting (refusalRejection e)

/-- The reply with a list of secrets. -/
def listReply (secrets : List Secret) : HttpReply :=
  .holding (.obj [("apiVersion", .str "v1"), ("kind", .str "SecretList"), ("metadata", .obj []),
    ("items", .arr (secrets.map Secret.toJson))])

/-! ### Requests -/

/-- The secrets of a namespace. -/
def shelf (s : ApiServer) (ns : String) : Shelf := s.cluster.shelf ns

/-- The server with other secrets in a namespace. -/
def setShelf (s : ApiServer) (ns : String) (shelf : Shelf) : ApiServer :=
  { s with cluster := s.cluster.setShelf ns shelf }

/-- Replies to a call, unless a hook does. -/
def onCall (s : ApiServer) (call : Call) (answer : ApiServer → HttpReply × ApiServer) :
    HttpReply × ApiServer :=
  match s.cluster.enter call with
  | (some reply, cluster) => (reply, { s with cluster := cluster })
  | (none, cluster) => answer { s with cluster := cluster }

/-- Reads a secret. -/
def getSecret (ns name : String) (s : ApiServer) : HttpReply × ApiServer :=
  s.onCall ⟨.get, ns, name⟩ fun s => (secretReply ((s.shelf ns).get name), s)

/-- Lists secrets. -/
def listSecrets (ns selector : String) (s : ApiServer) : HttpReply × ApiServer :=
  s.onCall ⟨.list, ns, selector⟩ fun s =>
    (listReply ((s.shelf ns).list (.ofSelector selector)), s)

/-- Creates a secret. -/
def createSecret (ns : String) (secret : Secret) (s : ApiServer) : HttpReply × ApiServer :=
  s.onCall ⟨.create, ns, Cluster.creationName secret⟩ fun s =>
    -- A refused creation may have used up a generated name, so the shelf is kept in any case.
    let (result, shelf) := (s.shelf ns).create ns secret
    (secretReply result, s.setShelf ns shelf)

/-- Replaces a secret. -/
def replaceSecret (ns name : String) (secret : Secret) (s : ApiServer) :
    HttpReply × ApiServer :=
  s.onCall ⟨.update, ns, name⟩ fun s =>
    match (s.shelf ns).update name secret with
    | (.ok stored, shelf) => (secretReply (.ok stored), s.setShelf ns shelf)
    | (.error e, _) => (secretReply (.error e), s)

/-- The text by which a document is known. -/
def documentKey (ns name : String) : String := OwnerKey.toString ⟨ns, name⟩

/-- Reads a document. -/
def fetchDocument (ns name : String) (s : ApiServer) : HttpReply × ApiServer :=
  s.onCall ⟨.fetch, ns, name⟩ fun s =>
    match s.documents.get? (documentKey ns name) with
    | some document => (.holding document, s)
    | none => (.rejecting (missingDocument name), s)

/-- A document after the part of a patch that concerns its status. -/
def patchedStatus (document patch : Json) : Json :=
  .obj <| Json.mergeFields document.fieldsOf <|
    match patch.field? "status" with
    | some status => [("status", status)]
    | none => []

/-- Changes the status of a document. -/
def patchDocument (ns name : String) (patch : Json) (s : ApiServer) : HttpReply × ApiServer :=
  s.onCall ⟨.patch, ns, name⟩ fun s =>
    match s.documents.get? (documentKey ns name) with
    | some document =>
      let changed := patchedStatus document patch
      (.holding changed,
        { s with documents := s.documents.insert (documentKey ns name) changed })
    | none => (.rejecting (missingDocument name), s)

/-- The secret in the body of a request, if there is one. -/
def bodySecret? (r : HttpRequest) : Option Secret := r.body.bind Secret.ofJson?

/-- Replies to a request that has no meaning. -/
def reject (e : Rejection) (s : ApiServer) : HttpReply × ApiServer := (.rejecting e, s)

/-- The server. -/
def server : Program.Server httpInterface ApiServer := fun (r : HttpRequest) s =>
  -- A request that is not understood is refused before it becomes a call.
  match r.method, place? r.path with
  | .get, some (.secret ns name) => s.getSecret ns name
  | .get, some (.secrets ns) => s.listSecrets ns ((r.query.lookup "labelSelector").getD "")
  | .post, some (.secrets ns) =>
    match bodySecret? r with
    | some secret => s.createSecret ns secret
    | none => s.reject badBody
  | .put, some (.secret ns name) =>
    match bodySecret? r with
    | some secret => s.replaceSecret ns name secret
    | none => s.reject badBody
  | .get, some (.document ns name) => s.fetchDocument ns name
  | .patch, some (.documentStatus ns name) => s.patchDocument ns name (r.body.getD .null)
  | _, _ => s.reject unknownRequest

end ApiServer

end SecretSync
