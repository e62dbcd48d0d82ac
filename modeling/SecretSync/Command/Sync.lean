import SecretSync.Command.Targets

/-!
# `SecretSync.Command.Sync`: writing the secrets of a resource

The command writes the secret of every local target of a resource, all
targets side by side, and then records the outcome of each in the status of
the resource, where the next sync finds the names again. The data comes from
the resource itself, from another secret, or from the command line.

Everything that can be wrong with the data is found out before the first
secret is read or written, except that another secret is read when a target
is handled. A failed target does not keep the others from being handled.
-/

set_option autoImplicit false

namespace SecretSync

/-- Where the data of a sync comes from. -/
inductive DataSource where
  /-- The resource itself. -/
  | uploadData
  /-- An existing secret. -/
  | secret (key : OwnerKey)
  /-- Entries given as text and in base64. -/
  | entries (literal base64 : SortedMap String)

namespace DataSource

/-- The source that the arguments of the command stand for: a secret if one is named, then entries
if there are any, and otherwise the resource itself. -/
def ofArguments (secret : Option OwnerKey) (literal base64 : List (String × String)) : DataSource :=
  match secret with
  | some key => .secret key
  | none =>
    if literal.isEmpty && base64.isEmpty then .uploadData
    else .entries (.ofList literal) (.ofList base64)

/-- The failure of a resource without data. -/
def noUploadData (owner : OwnerKey) : Failure :=
  ⟨"RemoteSecret '" ++ owner.toString ++ "' has no uploadData.\n\n" ++
    "Pass the data explicitly with --from-secret, --from-literal or --from-base64", []⟩

/-- The data of entries; those in base64 take precedence. -/
def entryData (literal base64 : SortedMap String) : Except ProviderError SecretData :=
  (decodeBase64 base64).map fun decoded => (SecretData.ofTexts literal).merge decoded

/-- The question for the data of a source, for a resource with a key. -/
def query (source : DataSource) (r : RemoteSecret) (owner : OwnerKey) :
    Except Failure (StoreProgram (Except ProviderError SecretData)) :=
  match source with
  | .uploadData =>
    match StaticData.ofUpload? r with
    | some data => .ok (data.provider owner)
    | none => .error (noUploadData owner)
  | .secret key => .ok (DataProvider.sourceSecret key)
  | .entries literal base64 =>
    match entryData literal base64 with
    | .ok data => .ok ((StaticData.empty.insert owner data).provider owner)
    | .error e => .error (.ofProvider e)

end DataSource

namespace Command

/-- The remark about a secret that a sync leaves behind. -/
def staleRemark (ns secretName : String) : String :=
  "   ⚠️  " ++ ns ++ ": secret '" ++ secretName ++
    "' no longer matches its desired name and can be deleted"

/-- Handles one target. With `recreate`, a secret under an old name is remarked on first. -/
def syncTarget (h : Handler) (data : StoreProgram (Except ProviderError SecretData))
    (recreate : Bool) : StoreProgram (Except SyncError Secret) :=
  if recreate then do
    match ← h.getStale with
    | .error e => return .error e
    | .ok stale =>
      match stale with
      | some secret => Program.print (staleRemark h.target.ns secret.name)
      | none => pure ()
      h.sync data recreate
  else h.sync data recreate

/-- The outcome of a sync by target namespace. -/
abbrev SyncOutcome := String × Except SyncError Secret

/-- The line about an outcome. -/
def outcomeLine : SyncOutcome → String
  | (ns, .ok secret) => "   ✅ " ++ ns ++ ": " ++ secret.name
  | (ns, .error e) => "   ❌ " ++ ns ++ ": [" ++ e.reason.text ++ "] " ++ e.message

/-- Writes an outcome into a status. -/
def recordOutcome (s : Status) : SyncOutcome → Status
  | (ns, .ok secret) => s.recordDeployed ns none secret.name
  | (ns, .error e) => s.recordFailed ns none e.message

/-- The number of failed targets. -/
def failureCount (outcomes : List SyncOutcome) : Nat :=
  outcomes.countP fun o => match o.2 with
    | .ok _ => false
    | .error _ => true

/-- What a sync amounts to once its outcomes are recorded. -/
def syncResult (outcomes : List SyncOutcome) : CommandResult :=
  let failures := failureCount outcomes
  if failures > 0 then .error ⟨toString failures ++ " target(s) failed to sync", []⟩ else .ok ()

/-- Tells the outcomes and records them in the status of the resource. -/
def concludeSync (ns name : String) (r : RemoteSecret) (owner : OwnerKey)
    (outcomes : List SyncOutcome) : ClusterProgram CommandResult := do
  Program.tellAll (outcomes.map fun o => .print (outcomeLine o))
  let status := outcomes.foldl recordOutcome (r.status.getD {})
  match ← recordTargets ns name status.targets with
  | .error e =>
    return .error ((Failure.ofApi e).within
      ("Failed to update the status of RemoteSecret '" ++ owner.toString ++ "'"))
  | .ok _ => return syncResult outcomes

/-- The line that announces a sync. -/
def syncHeadline (owner : OwnerKey) (count : Nat) : String :=
  "🔄 Syncing RemoteSecret '" ++ owner.toString ++ "' to " ++ toString count ++ " target(s)..."

/-- Syncs a resource that was fetched. The order says whose turn it is, given the number of
targets. -/
def syncFetched (order : Nat → List Nat) (ns name : String) (source : DataSource)
    (recreate : Bool) (r : RemoteSecret) : ClusterProgram CommandResult :=
  match r.key? with
  | none => return .error ⟨"RemoteSecret '" ++ ns ++ "/" ++ name ++ "' has no identity", []⟩
  | some owner =>
    match source.query r owner with
    | .error e => return .error e
    | .ok data => do
      match ← r.localHandlers with
      | .error e => return .error e
      | .ok handlers =>
        Program.print (syncHeadline owner handlers.length)
        -- All targets are handled before any outcome is told or recorded.
        let runs := handlers.map fun h => syncTarget h data recreate
        let results ← onStore (Program.weave (order handlers.length) runs)
        concludeSync ns name r owner ((handlers.map (·.target.ns)).zip results)

/-- Writes the secrets of a resource in all its local targets. -/
def sync (order : Nat → List Nat) (ns name : String) (source : DataSource) (recreate : Bool) :
    ClusterProgram CommandResult := do
  match ← fetchForCommand ns name with
  | .error e => return .error e
  | .ok r => syncFetched order ns name source recreate r

/-- The order in which every target gets one turn after the other. A target never makes more than
eight requests. -/
def inTurns (count : Nat) : List Nat := Program.roundRobin 8 count

end Command

end SecretSync
