import SecretSync.Document

/-!
# `SecretSync.Resource.Status`: what is known about the targets of a resource

The status of a resource lists conditions and, for every target, the name of
the secret that was materialized there and the last error. A target is known
by its namespace and the address of its cluster; no address and the empty
address both mean the local cluster.

`recordDeployed` and `recordFailed` write the outcome of a sync into the
first entry of the target, or into a new one at the end.
-/

set_option autoImplicit false

namespace SecretSync

/-- An observation about a resource. -/
structure Condition where
  type : String
  status : String
  lastTransitionTime : Option String := none
  reason : Option String := none
  message : Option String := none
  deriving DecidableEq, Repr

/-- The state of one target. -/
structure TargetStatus where
  ns : String := ""
  /-- The address of the cluster of the target. -/
  apiUrl : Option String := none
  /-- The name of the secret in the target. -/
  secretName : String := ""
  error : Option String := none
  deriving DecidableEq, Repr

/-- The status of a resource. -/
structure Status where
  conditions : List Condition := []
  targets : List TargetStatus := []
  deriving DecidableEq, Repr, Inhabited

/-- The address of a cluster; the local one has the empty address. -/
def clusterAddress (apiUrl : Option String) : String := apiUrl.getD ""

namespace TargetStatus

/-- Whether this is an entry of the target in a namespace of a cluster. -/
def isFor (t : TargetStatus) (ns : String) (apiUrl : Option String) : Bool :=
  t.ns == ns && clusterAddress t.apiUrl == clusterAddress apiUrl

/-- The entry of a target about which nothing is known. -/
def blank (ns : String) (apiUrl : Option String) : TargetStatus :=
  { ns := ns, apiUrl := apiUrl.filter (!·.isEmpty) }

end TargetStatus

namespace Status

/-- Whether some condition of a type holds. -/
def isConditionTrue (s : Status) (type : String) : Bool :=
  s.conditions.any fun c => c.type == type && c.status == "True"

/-- The entry of a target. -/
def target? (s : Status) (ns : String) (apiUrl : Option String) : Option TargetStatus :=
  s.targets.find? (·.isFor ns apiUrl)

/-- Changes the first entry of a target, adding one at the end if there is none. -/
def updateTarget (ns : String) (apiUrl : Option String) (f : TargetStatus → TargetStatus) :
    List TargetStatus → List TargetStatus
  | [] => [f (.blank ns apiUrl)]
  | t :: rest => if t.isFor ns apiUrl then f t :: rest else t :: updateTarget ns apiUrl f rest

/-- Records the name of the secret in a target and forgets an earlier error. -/
def recordDeployed (s : Status) (ns : String) (apiUrl : Option String) (secretName : String) :
    Status :=
  { s with
    targets := updateTarget ns apiUrl (fun t => { t with secretName := secretName, error := none })
      s.targets }

/-- Records that a target failed; the name that was known stays. -/
def recordFailed (s : Status) (ns : String) (apiUrl : Option String) (error : String) : Status :=
  { s with
    targets := updateTarget ns apiUrl (fun t => { t with error := some error }) s.targets }

end Status

/-! ### Documents -/

namespace Condition

/-- Reads a condition. -/
def ofDocument? {δ : Type} [Document δ] (d : δ) : Option Condition := do
  let fields ← Document.knownFields?
    ["type", "status", "lastTransitionTime", "reason", "message"] d
  let field (name : String) := Document.findField name fields
  pure {
    type := ← Document.required Document.text? (field "type")
    status := ← Document.required Document.text? (field "status")
    lastTransitionTime := ← Document.optional Document.text? (field "lastTransitionTime")
    reason := ← Document.optional Document.text? (field "reason")
    message := ← Document.optional Document.text? (field "message")
  }

/-- A text or null. -/
def orNull : Option String → Json
  | some s => .str s
  | none => .null

/-- The written form; absent fields are null. -/
def toJson (c : Condition) : Json :=
  .obj [("type", .str c.type), ("status", .str c.status),
    ("lastTransitionTime", orNull c.lastTransitionTime), ("reason", orNull c.reason),
    ("message", orNull c.message)]

end Condition

namespace TargetStatus

/-- Reads the entry of a target. -/
def ofDocument? {δ : Type} [Document δ] (d : δ) : Option TargetStatus := do
  let fields ← Document.knownFields? ["namespace", "apiUrl", "secretName", "error"] d
  let field (name : String) := Document.findField name fields
  pure {
    ns := ← Document.required Document.text? (field "namespace")
    apiUrl := ← Document.optional Document.text? (field "apiUrl")
    secretName := ← Document.withDefault "" Document.text? (field "secretName")
    error := ← Document.optional Document.text? (field "error")
  }

/-- The written form; absent fields are left out. -/
def toJson (t : TargetStatus) : Json :=
  .obj <|
    [("namespace", .str t.ns)] ++ Json.optionalField "apiUrl" Json.str t.apiUrl ++
    [("secretName", .str t.secretName)] ++ Json.optionalField "error" Json.str t.error

end TargetStatus

namespace Status

/-- Reads a status. -/
def ofDocument? {δ : Type} [Document δ] (d : δ) : Option Status := do
  let fields ← Document.knownFields? ["conditions", "targets"] d
  let field (name : String) := Document.findField name fields
  pure {
    conditions := ←
      Document.withDefault [] (Document.list? Condition.ofDocument?) (field "conditions")
    targets := ← Document.withDefault [] (Document.list? TargetStatus.ofDocument?) (field "targets")
  }

/-- The written form of the targets. -/
def targetsToJson (targets : List TargetStatus) : Json := .arr (targets.map TargetStatus.toJson)

/-- The written form; both lists are always there. -/
def toJson (s : Status) : Json :=
  .obj [("conditions", .arr (s.conditions.map Condition.toJson)),
    ("targets", targetsToJson s.targets)]

end Status

end SecretSync
