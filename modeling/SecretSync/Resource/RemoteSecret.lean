import SecretSync.Binding.DataProvider
import SecretSync.Binding.Target
import SecretSync.Resource.ObjectMeta
import SecretSync.Resource.Status

/-!
# `SecretSync.Resource.RemoteSecret`: the resource that owns secrets

A `RemoteSecret` says what a secret should look like, in which namespaces it
should exist and where its data comes from. Its status says what became of
that.

Reading accepts documents in which fields with a default are left out; writing
leaves out empty names and maps, keeps optional fields as they are, and always
gives the four parts of the specification.
-/

set_option autoImplicit false

namespace SecretSync

/-- A namespace that the secret is deployed to. -/
structure TargetSpec where
  ns : String
  /-- The address of the cluster; absent or empty for the local one. -/
  apiUrl : Option String := none
  /-- The secret with the credentials of that cluster. -/
  clusterCredentialsSecret : Option String := none
  deriving DecidableEq, Repr

/-- Whether the target is in the local cluster: it has no address or the empty one. -/
def TargetSpec.isLocal (t : TargetSpec) : Bool := t.apiUrl.all (·.isEmpty)

/-- The resource from which the data is copied. -/
structure DataFrom where
  name : String := ""
  /-- Its namespace, if it is another one. -/
  ns : Option String := none
  deriving DecidableEq, Repr

/-- A reference without a name is no reference. -/
def DataFrom.isEmpty (d : DataFrom) : Bool := d.name.isEmpty

/-- What is wanted. -/
structure RemoteSecretSpec where
  secret : SecretSpec := {}
  targets : List TargetSpec := []
  dataFrom : Option DataFrom := none
  /-- Data given in the resource itself. -/
  uploadData : Option (SortedMap String) := none
  deriving DecidableEq, Inhabited

/-- A resource that owns secrets. -/
structure RemoteSecret where
  metadata : ObjectMeta := {}
  spec : RemoteSecretSpec := {}
  status : Option Status := none
  deriving DecidableEq, Inhabited

namespace RemoteSecret

/-- The key of a resource, if it has a name and a namespace. -/
def key? (r : RemoteSecret) : Option OwnerKey := do
  let name ← r.metadata.name
  let ns ← r.metadata.ns
  pure ⟨ns, name⟩

/-- The name of the secret that was materialized in a local namespace, empty if none is known. -/
def recordedName (r : RemoteSecret) (ns : String) : String :=
  match r.status.bind (·.target? ns none) with
  | some t => t.secretName
  | none => ""

end RemoteSecret

/-- Why a target of a resource cannot be handled. -/
inductive TargetError where
  /-- The resource has no name or no namespace. -/
  | missingIdentity
  /-- The target is in another cluster. -/
  | remoteTarget (ns apiUrl : String)
  deriving DecidableEq, Repr

/-- The text of the failure. -/
def TargetError.message : TargetError → String
  | .missingIdentity => "the RemoteSecret has no name or namespace"
  | .remoteTarget ns apiUrl =>
    "target " ++ ns ++ " in cluster " ++ apiUrl ++ " is not a local namespace"

/-- The deployment target for a local target of a resource, with the name that its status
records. -/
def DeploymentTarget.ofRemoteSecret (r : RemoteSecret) (t : TargetSpec) :
    Except TargetError DeploymentTarget :=
  if !t.isLocal then .error (.remoteTarget t.ns (clusterAddress t.apiUrl))
  else match r.key? with
    | none => .error .missingIdentity
    | some owner => .ok (.inNamespace r.spec.secret t.ns owner (r.recordedName t.ns))

/-! ### Documents -/

namespace SecretSpec

/-- Reads the shape of a secret. -/
def ofDocument? {δ : Type} [Document δ] (d : δ) : Option SecretSpec := do
  let fields ← Document.knownFields? ["name", "generateName", "type", "labels", "annotations"] d
  let field (name : String) := Document.findField name fields
  pure {
    name := ← Document.withDefault "" Document.text? (field "name")
    generateName := ← Document.withDefault "" Document.text? (field "generateName")
    type := ← Document.optional Document.text? (field "type")
    labels := ← Document.withDefault .empty Document.textMap? (field "labels")
    annotations := ← Document.withDefault .empty Document.textMap? (field "annotations")
  }

/-- A text field, left out if the text is empty. -/
def nonEmptyText (name value : String) : List (String × Json) :=
  if value.isEmpty then [] else [(name, .str value)]

/-- A map field, left out if the map is empty. -/
def nonEmptyMap (name : String) (m : SortedMap String) : List (String × Json) :=
  if m.isEmpty then [] else [(name, Json.ofTextMap m)]

/-- The written form. -/
def toJson (s : SecretSpec) : Json :=
  .obj <|
    nonEmptyText "name" s.name ++ nonEmptyText "generateName" s.generateName ++
    Json.optionalField "type" Json.str s.type ++ nonEmptyMap "labels" s.labels ++
    nonEmptyMap "annotations" s.annotations

end SecretSpec

namespace TargetSpec

/-- Reads a target. -/
def ofDocument? {δ : Type} [Document δ] (d : δ) : Option TargetSpec := do
  let fields ← Document.knownFields? ["namespace", "apiUrl", "clusterCredentialsSecret"] d
  let field (name : String) := Document.findField name fields
  pure {
    ns := ← Document.required Document.text? (field "namespace")
    apiUrl := ← Document.optional Document.text? (field "apiUrl")
    clusterCredentialsSecret := ←
      Document.optional Document.text? (field "clusterCredentialsSecret")
  }

/-- The written form. -/
def toJson (t : TargetSpec) : Json :=
  .obj <|
    [("namespace", .str t.ns)] ++ Json.optionalField "apiUrl" Json.str t.apiUrl ++
    Json.optionalField "clusterCredentialsSecret" Json.str t.clusterCredentialsSecret

end TargetSpec

namespace DataFrom

/-- Reads a reference to another resource. -/
def ofDocument? {δ : Type} [Document δ] (d : δ) : Option DataFrom := do
  let fields ← Document.knownFields? ["name", "namespace"] d
  let field (name : String) := Document.findField name fields
  pure {
    name := ← Document.withDefault "" Document.text? (field "name")
    ns := ← Document.optional Document.text? (field "namespace")
  }

/-- The written form; the name is always there. -/
def toJson (d : DataFrom) : Json :=
  .obj <| [("name", .str d.name)] ++ Json.optionalField "namespace" Json.str d.ns

end DataFrom

namespace RemoteSecretSpec

/-- Reads what is wanted. -/
def ofDocument? {δ : Type} [Document δ] (d : δ) : Option RemoteSecretSpec := do
  let fields ← Document.knownFields? ["secret", "targets", "dataFrom", "uploadData"] d
  let field (name : String) := Document.findField name fields
  pure {
    secret := ← Document.withDefault {} SecretSpec.ofDocument? (field "secret")
    targets := ← Document.withDefault [] (Document.list? TargetSpec.ofDocument?) (field "targets")
    dataFrom := ← Document.optional DataFrom.ofDocument? (field "dataFrom")
    uploadData := ← Document.optional Document.textMap? (field "uploadData")
  }

/-- A value or null. -/
def orNull {α : Type} (write : α → Json) : Option α → Json
  | some a => write a
  | none => .null

/-- The written form; all four parts are always there. -/
def toJson (s : RemoteSecretSpec) : Json :=
  .obj [("secret", s.secret.toJson), ("targets", .arr (s.targets.map TargetSpec.toJson)),
    ("dataFrom", orNull DataFrom.toJson s.dataFrom),
    ("uploadData", orNull Json.ofTextMap s.uploadData)]

end RemoteSecretSpec

namespace RemoteSecret

/-- Reads a resource. What it says about its own kind and version is not looked at. -/
def ofDocument? {δ : Type} [Document δ] (d : δ) : Option RemoteSecret := do
  let fields ← Document.knownFields? ["metadata", "spec", "status"] d
  let field (name : String) := Document.findField name fields
  pure {
    metadata := ← Document.required ObjectMeta.ofDocument? (field "metadata")
    spec := ← Document.required RemoteSecretSpec.ofDocument? (field "spec")
    status := ← Document.optional Status.ofDocument? (field "status")
  }

/-- The written form; the status is left out if there is none. -/
def toJson (r : RemoteSecret) : Json :=
  .obj <|
    [("apiVersion", .str "remotesecret.dev/v1beta1"), ("kind", .str "RemoteSecret"),
      ("metadata", r.metadata.toJson), ("spec", r.spec.toJson)] ++
    Json.optionalField "status" Status.toJson r.status

end RemoteSecret

/-- The data given in a resource, under the key of the resource; nothing if it has no key or no
such data. -/
def StaticData.ofUpload? (r : RemoteSecret) : Option StaticData := do
  let key ← r.key?
  let upload ← r.spec.uploadData
  pure (StaticData.empty.insert key (SecretData.ofTexts upload))

end SecretSync
