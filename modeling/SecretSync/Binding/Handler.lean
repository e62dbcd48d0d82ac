import SecretSync.Binding.SyncError
import SecretSync.Ownership.Marker

/-!
# `SecretSync.Binding.Handler`: keeping the secret of one target

A handler materializes the secret of a deployment target (`sync`), finds out
whether the one that was materialized before still has a wanted name
(`getStale`), and lists the secrets that the owner manages (`list`).

No locks are taken. Two races with other writers are settled by going over to
the other way to write: a secret that has gone is created, and a secret that
has appeared is updated. Each of the two is done at most once in a sync; what
fails after that is reported.
-/

set_option autoImplicit false

namespace SecretSync

/-- The handler of a deployment target. -/
structure Handler where
  target : DeploymentTarget
  marker : Marker

/-- What is to be written, fixed once for a sync. -/
structure DesiredSecret where
  name : String
  generateName : String
  spec : SecretSpec
  data : SecretData

/-- The entries of a map, absent if there are none. -/
def SortedMap.nonEmpty? {α : Type} (m : SortedMap α) : Option (SortedMap α) :=
  if m.isEmpty then none else some m

/-- Adds the wanted entries to a map that may be absent; without wanted entries it stays as it
is. -/
def mergeWanted (existing : Option (SortedMap String)) (wanted : SortedMap String) :
    Option (SortedMap String) :=
  if wanted.isEmpty then existing else some ((existing.getD .empty).merge wanted)

namespace DesiredSecret

/-- The secret to create, not yet marked. -/
def fresh (d : DesiredSecret) (ns : String) : Secret where
  metadata := {
    name := if d.name.isEmpty then none else some d.name
    generateName := some d.generateName
    ns := some ns
    labels := d.spec.labels.nonEmpty?
    annotations := d.spec.annotations.nonEmpty?
  }
  data := some d.data
  type := d.spec.type

/-- An existing secret with everything wanted put over it, not yet marked. -/
def overlay (d : DesiredSecret) (s : Secret) : Secret :=
  { s with
    metadata := { s.metadata with
      labels := mergeWanted s.metadata.labels d.spec.labels
      annotations := mergeWanted s.metadata.annotations d.spec.annotations }
    data := some ((s.data.getD .empty).merge d.data) }

end DesiredSecret

namespace Handler

/-- The part of the program that keeps secrets, as log records name it. -/
def logOrigin : String := "remote_secret_controller::binding::handler"

/-- A log record of a handler. -/
def record (level : LogLevel) (message : String) (fields : List (String × LogValue)) :
    StoreProgram Unit :=
  Program.log ⟨level, logOrigin, message, fields⟩

/-- The failure of this target with a fault. -/
def failure (h : Handler) (fault : SyncFault) : SyncError :=
  ⟨h.target.owner, h.target.kind, fault⟩

/-! ### Stale secrets -/

/-- The secret that an earlier sync stored under a name that is no longer wanted; nothing if there
was no such sync, if the name still fits, or if the secret is gone. -/
def getStale (h : Handler) : StoreProgram (Except SyncError (Option Secret)) :=
  match h.target.previousName with
  | none => return .ok none
  | some previous =>
    if h.target.corresponds previous then return .ok none
    else do
      match ← Store.get h.target.ns previous with
      | .ok secret =>
        record .info "secret no longer corresponds to the target spec"
          [("target_key", .text h.target.owner.toString), ("target_type", .text h.target.kind),
            ("namespace", .text h.target.ns), ("secret", .text previous)]
        Program.measure .staleFound
        return .ok (some secret)
      | .error e =>
        if e.isNotFound then
          record .debug "previous secret already gone, nothing stale"
            [("namespace", .text h.target.ns), ("secret", .text previous)]
          return .ok none
        else return .error (h.failure (.staleDetection h.target.ns previous e))

/-! ### Writing -/

/-- Creates the secret. The ownership is part of the request, so the secret never exists
unmarked. -/
def create (h : Handler) (d : DesiredSecret) : StoreProgram (Except SyncFault Secret) :=
  let secret := d.fresh h.target.ns
  match h.marker.markManaged h.target.owner secret.metadata with
  | .error e => return .error (.marking e)
  | .ok marked => do
    match ← Store.create h.target.ns { secret with metadata := marked.metadata } with
    | .error e => return .error (.secretUpdate e)
    | .ok created =>
      Program.measure (.written .create)
      record .info "created target secret"
        [("target_key", .text h.target.owner.toString), ("target_type", .text h.target.kind),
          ("namespace", .text h.target.ns), ("secret", .text created.name)]
      return .ok created

/-- Puts everything wanted over the stored secret and writes it back; what is not wanted stays. -/
def update (h : Handler) (d : DesiredSecret) : StoreProgram (Except SyncFault Secret) := do
  match ← Store.get h.target.ns d.name with
  | .error e => return .error (.secretUpdate e)
  | .ok stored =>
    let secret := d.overlay stored
    match h.marker.markManaged h.target.owner secret.metadata with
    | .error e => return .error (.marking e)
    | .ok marked =>
      if marked.changed then
        record .debug "ownership metadata of the secret changed"
          [("namespace", .text h.target.ns), ("secret", .text d.name)]
      match ← Store.update h.target.ns { secret with metadata := marked.metadata } with
      | .error e => return .error (.secretUpdate e)
      | .ok updated =>
        Program.measure (.written .update)
        record .debug "updated target secret"
          [("target_key", .text h.target.owner.toString), ("namespace", .text h.target.ns),
            ("secret", .text d.name)]
        return .ok updated

/-- Whether a write failed because the secret does not exist. -/
def lostSecret : Except SyncFault Secret → Bool
  | .error (.secretUpdate e) => e.isNotFound
  | _ => false

/-- Whether a write failed because the secret exists already. -/
def foundSecret : Except SyncFault Secret → Bool
  | .error (.secretUpdate e) => e.isAlreadyExists
  | _ => false

/-- One attempt to write the secret. -/
def attemptBy (h : Handler) (d : DesiredSecret) : WriteKind →
    StoreProgram (Except SyncFault Secret)
  | .create => h.create d
  | .update => h.update d

/-- Attempts to write the secret, in this way first. A creation that finds the secret there goes
over to an update, and an update that has lost the secret to a creation. `existsTaken` and
`goneTaken` say which of the two has been done; neither is done twice. -/
def attempts (h : Handler) (d : DesiredSecret) (kind : WriteKind) (existsTaken goneTaken : Bool) :
    StoreProgram (Except SyncFault Secret) := do
  let written ← h.attemptBy d kind
  match kind with
  | .create =>
    -- Without a name there is nothing to update.
    if _ : foundSecret written = true ∧ d.name ≠ "" ∧ existsTaken = false then
      record .warn "secret created concurrently, updating it instead"
        [("namespace", .text h.target.ns), ("secret", .text d.name)]
      Program.measure (.fellBack .create)
      attempts h d .update true goneTaken
    else return written
  | .update =>
    if _ : lostSecret written = true ∧ goneTaken = false then
      record .warn "secret not found for update, creating it instead"
        [("namespace", .text h.target.ns), ("secret", .text d.name)]
      Program.measure (.fellBack .update)
      attempts h d .create existsTaken true
    else return written
termination_by (!existsTaken).toNat + (!goneTaken).toNat
decreasing_by
  all_goals simp_all

/-- Writes the secret. Without a name there is nothing to update and the store generates one. -/
def materialize (h : Handler) (d : DesiredSecret) : StoreProgram (Except SyncFault Secret) :=
  h.attempts d (if d.name.isEmpty then .create else .update) false false

/-- What is to be written for the data. -/
def desired (h : Handler) (recreate : Bool) (data : SecretData) : DesiredSecret where
  name := h.target.effectiveName recreate
  generateName := h.target.effectiveGenerateName
  spec := h.target.spec
  data := data

/-- Writes the secret for an answer of a data provider. -/
def write (h : Handler) (recreate : Bool) :
    Except ProviderError SecretData → StoreProgram (Except SyncError Secret)
  | .error e => return .error (h.failure (.dataFetch e))
  | .ok data => do
    let written ← h.materialize (h.desired recreate data)
    return written.mapError h.failure

/-- Creates or updates the secret of the target with the data of a provider. With `recreate` the
name of the secret that was materialized before is ignored. -/
def sync (h : Handler) (provider : StoreProgram (Except ProviderError SecretData))
    (recreate : Bool) : StoreProgram (Except SyncError Secret) := do
  let data ← provider
  let result ← h.write recreate data
  Program.measure .syncTimed
  match result with
  | .ok _ => pure ()
  | .error e => Program.measure (.syncFailed e.reason.text)
  return result

/-! ### Listing -/

/-- The secrets of the list that the owner manages; the first one whose ownership is unclear makes
it fail. -/
def managedOf (h : Handler) : List Secret → Except ListFailure (List Secret)
  | [] => .ok []
  | secret :: rest =>
    match h.marker.isManagedBy h.target.owner secret.metadata with
    | .error e => .error (.ownership (h.target.ns ++ "/" ++ secret.name) e)
    | .ok managed =>
      (managedOf h rest).map fun secrets => if managed then secret :: secrets else secrets

/-- The secrets of the target namespace that the owner manages. -/
def list (h : Handler) : StoreProgram (Except SyncError (List Secret)) :=
  match h.marker.managedFilter h.target.owner with
  | .error e => return .error (h.failure (.list (.options e)))
  | .ok filter => do
    match ← Store.list h.target.ns filter with
    | .error e => return .error (h.failure (.list (.store e)))
    | .ok candidates =>
      record .debug "listing secrets managed by target"
        [("target_type", .text h.target.kind), ("target_key", .text h.target.owner.toString),
          ("namespace", .text h.target.ns), ("selector", .text filter.selector),
          ("candidates", .number candidates.length)]
      match h.managedOf candidates with
      | .error e => return .error (h.failure (.list e))
      | .ok managed =>
        Program.measure .listed
        return .ok managed

end Handler

end SecretSync
