import SecretSync.Binding.Handler
import SecretSync.Proofs.Program.Steps

/-!
# `SecretSync.Proofs.Binding.Attempts`: the two ways to write as trees

`Handler.prepared` is the secret that a handler sends: the wanted secret, put
over the stored one if there is one, and then marked. Marking may refuse, and
then nothing is sent.

With it, `create` and `update` are short trees of requests. `create_of_prepared`
and `update_eq` write them down, with the reports about a request in
`reporting`. Later proofs take a program apart with these equations only.

`attempts_create` and `attempts_update` are a turn of the loop that goes over
from one way to write to the other. A turn that is not the last takes one of the
two fallbacks, so there are at most three turns. `materialize_eq` lines them up.

A sync that does not lose the secret to its first update is this update
(`sync_of_kept`).
-/

set_option autoImplicit false

namespace SecretSync

/-- The wanted secret, put over the stored one if there is one; not yet marked. -/
def DesiredSecret.over (d : DesiredSecret) (ns : String) : Option Secret → Secret
  | none => d.fresh ns
  | some stored => d.overlay stored

namespace Handler

open Program (reporting)

/-- The secret that a handler sends for what it wants: put over the stored one, and then marked
with the owner. -/
def prepared (h : Handler) (d : DesiredSecret) (stored : Option Secret) :
    Except MarkerError Secret :=
  (h.marker.markManaged h.target.owner (d.over h.target.ns stored).metadata).map fun m =>
    { d.over h.target.ns stored with metadata := m.metadata }

/-- What is reported about a creation. -/
def creationReport (h : Handler) : Except StoreError Secret → List Event
  | .error _ => []
  | .ok created =>
    [.measure (.written .create),
      .log ⟨.info, logOrigin, "created target secret",
        [("target_key", .text h.target.owner.toString), ("target_type", .text h.target.kind),
          ("namespace", .text h.target.ns), ("secret", .text created.name)]⟩]

/-- What is reported about marking a stored secret. -/
def markingReport (h : Handler) (d : DesiredSecret) (stored : Secret) : List Event :=
  match h.marker.markManaged h.target.owner (d.overlay stored).metadata with
  | .error _ => []
  | .ok marked =>
    if marked.changed then
      [.log ⟨.debug, logOrigin, "ownership metadata of the secret changed",
        [("namespace", .text h.target.ns), ("secret", .text d.name)]⟩]
    else []

/-- What is reported about a replacement. -/
def replacementReport (h : Handler) (d : DesiredSecret) : Except StoreError Secret → List Event
  | .error _ => []
  | .ok _ =>
    [.measure (.written .update),
      .log ⟨.debug, logOrigin, "updated target secret",
        [("target_key", .text h.target.owner.toString), ("namespace", .text h.target.ns),
          ("secret", .text d.name)]⟩]

/-- What is reported when an update goes over to creating. -/
def lossReport (h : Handler) (d : DesiredSecret) : List Event :=
  [.log ⟨.warn, logOrigin, "secret not found for update, creating it instead",
    [("namespace", .text h.target.ns), ("secret", .text d.name)]⟩,
    .measure (.fellBack .update)]

/-- What is reported when a creation goes over to updating. -/
def appearanceReport (h : Handler) (d : DesiredSecret) : List Event :=
  [.log ⟨.warn, logOrigin, "secret created concurrently, updating it instead",
    [("namespace", .text h.target.ns), ("secret", .text d.name)]⟩,
    .measure (.fellBack .create)]

variable {h : Handler} {d : DesiredSecret}

/-- Marking refused the secret that was to be sent. -/
theorem markManaged_of_refused {stored : Option Secret} {e : MarkerError}
    (hp : h.prepared d stored = .error e) :
    h.marker.markManaged h.target.owner (d.over h.target.ns stored).metadata = .error e := by
  unfold prepared at hp
  cases hm : h.marker.markManaged h.target.owner (d.over h.target.ns stored).metadata with
  | error e' => rw [hm] at hp; cases hp; rfl
  | ok marked => rw [hm] at hp; cases hp

/-- The secret that is sent is the wanted one with marked metadata. -/
theorem markManaged_of_prepared {stored : Option Secret} {secret : Secret}
    (hp : h.prepared d stored = .ok secret) :
    ∃ marked : Marked,
      h.marker.markManaged h.target.owner (d.over h.target.ns stored).metadata = .ok marked ∧
      secret = { d.over h.target.ns stored with metadata := marked.metadata } := by
  unfold prepared at hp
  cases hm : h.marker.markManaged h.target.owner (d.over h.target.ns stored).metadata with
  | error e => rw [hm] at hp; cases hp
  | ok marked => rw [hm] at hp; cases hp; exact ⟨marked, rfl, rfl⟩

/-- Marking leaves the data alone. -/
theorem data_over_of_prepared {stored : Option Secret} {secret : Secret}
    (hp : h.prepared d stored = .ok secret) : secret.data = (d.over h.target.ns stored).data := by
  obtain ⟨marked, -, rfl⟩ := markManaged_of_prepared hp
  rfl

/-! ### Creating -/

/-- A creation that marking refuses makes no request. -/
theorem create_of_refused {e : MarkerError} (hp : h.prepared d none = .error e) :
    h.create d = .done (.error (.marking e)) := by
  have hm : h.marker.markManaged h.target.owner (d.fresh h.target.ns).metadata = .error e :=
    markManaged_of_refused hp
  simp only [create, hm]
  rfl

/-- A creation sends the prepared secret and ends with the reply. -/
theorem create_of_prepared {secret : Secret} (hp : h.prepared d none = .ok secret) :
    h.create d
      = .request (.create h.target.ns secret) fun reply =>
          reporting (h.creationReport reply) (.done (reply.mapError .secretUpdate)) := by
  obtain ⟨marked, hm, rfl⟩ := markManaged_of_prepared hp
  have hm : h.marker.markManaged h.target.owner (d.fresh h.target.ns).metadata = .ok marked := hm
  simp only [create, hm]
  refine congrArg (Program.request _) (funext fun reply => ?_)
  cases reply <;> rfl

/-! ### Updating -/

/-- What an update does with the secret that it has read. -/
def replace (h : Handler) (d : DesiredSecret) (stored : Secret) :
    StoreProgram (Except SyncFault Secret) :=
  match h.prepared d (some stored) with
  | .error e => .done (.error (.marking e))
  | .ok secret =>
    reporting (h.markingReport d stored) <|
      .request (.update h.target.ns secret) fun reply =>
        reporting (h.replacementReport d reply) (.done (reply.mapError .secretUpdate))

/-- What an update goes on with after its read. -/
def afterRead (h : Handler) (d : DesiredSecret) :
    Except StoreError Secret → StoreProgram (Except SyncFault Secret)
  | .error e => .done (.error (.secretUpdate e))
  | .ok stored => h.replace d stored

theorem replace_of_refused {stored : Secret} {e : MarkerError}
    (hp : h.prepared d (some stored) = .error e) :
    h.replace d stored = .done (.error (.marking e)) := by
  unfold replace
  rw [hp]

theorem replace_of_prepared {stored secret : Secret}
    (hp : h.prepared d (some stored) = .ok secret) :
    h.replace d stored
      = reporting (h.markingReport d stored)
          (.request (I := storeInterface) (.update h.target.ns secret) fun reply =>
            reporting (h.replacementReport d reply) (.done (reply.mapError .secretUpdate))) := by
  unfold replace
  rw [hp]

/-- An update reads the secret and replaces what it has read. -/
theorem update_eq (h : Handler) (d : DesiredSecret) :
    h.update d = .request (.get h.target.ns d.name) (h.afterRead d) := by
  refine (Program.ask_bind (I := storeInterface) (.get h.target.ns d.name) _).trans ?_
  refine congrArg (Program.request _) (funext fun reply => ?_)
  cases reply with
  | error e => rfl
  | ok stored =>
    show _ = h.replace d stored
    cases hp : h.prepared d (some stored) with
    | error e =>
      have hm : h.marker.markManaged h.target.owner (d.overlay stored).metadata = .error e :=
        markManaged_of_refused hp
      rw [replace_of_refused hp]
      simp only [hm]
      rfl
    | ok secret =>
      obtain ⟨marked, hm, rfl⟩ := markManaged_of_prepared hp
      have hm : h.marker.markManaged h.target.owner (d.overlay stored).metadata = .ok marked :=
        hm
      rw [replace_of_prepared hp]
      simp only [markingReport, hm]
      -- Whether marking changed anything decides about one record in front of the request.
      cases marked.changed with
      | false =>
        refine congrArg (Program.request _) (funext fun reply => ?_)
        cases reply <;> rfl
      | true =>
        refine congrArg (fun k => Program.emit _ (Program.request _ k)) (funext fun reply => ?_)
        cases reply <;> rfl

/-! ### Going over -/

/-- An attempt to create, and what follows it. -/
theorem attempts_create (h : Handler) (d : DesiredSecret) (existsTaken goneTaken : Bool) :
    h.attempts d .create existsTaken goneTaken
      = (h.create d).bind fun created =>
          if foundSecret created = true ∧ d.name ≠ "" ∧ existsTaken = false then
            reporting (h.appearanceReport d) (h.attempts d .update true goneTaken)
          else .done created := by
  rw [attempts]
  refine congrArg (h.create d).bind (funext fun created => ?_)
  -- The guard is the one of the loop, which keeps it for its measure.
  dsimp only
  split <;> rfl

/-- An attempt to update, and what follows it. -/
theorem attempts_update (h : Handler) (d : DesiredSecret) (existsTaken goneTaken : Bool) :
    h.attempts d .update existsTaken goneTaken
      = (h.update d).bind fun updated =>
          if lostSecret updated = true ∧ goneTaken = false then
            reporting (h.lossReport d) (h.attempts d .create existsTaken true)
          else .done updated := by
  rw [attempts]
  refine congrArg (h.update d).bind (funext fun updated => ?_)
  dsimp only
  split <;> rfl

/-- What follows a creation after a loss: an update if the secret has appeared. -/
def afterCreation (h : Handler) (d : DesiredSecret) (created : Except SyncFault Secret) :
    StoreProgram (Except SyncFault Secret) :=
  if foundSecret created then reporting (h.appearanceReport d) (h.update d) else .done created

/-- What follows the first update: a creation if the secret is gone. -/
def afterUpdate (h : Handler) (d : DesiredSecret) (updated : Except SyncFault Secret) :
    StoreProgram (Except SyncFault Secret) :=
  if lostSecret updated then
    reporting (h.lossReport d) ((h.create d).bind (h.afterCreation d))
  else .done updated

/-- Once both ways have been gone over, an update is the last attempt. -/
theorem attempts_last (h : Handler) (d : DesiredSecret) :
    h.attempts d .update true true = h.update d := by
  rw [attempts_update]
  simp only [Bool.true_eq_false, and_false, if_false]
  exact Program.bind_done _

/-- A creation after a loss goes over at most once more. -/
theorem attempts_after_loss (hn : d.name ≠ "") :
    h.attempts d .create false true = (h.create d).bind (h.afterCreation d) := by
  rw [attempts_create]
  refine congrArg (h.create d).bind (funext fun created => ?_)
  simp only [attempts_last, hn, ne_eq, not_false_eq_true, and_true]
  rfl

/-- The attempts, one after the other. Without a name the secret is created. With one it is updated,
created if it is gone, and updated after all if it has appeared again. -/
theorem materialize_eq (h : Handler) (d : DesiredSecret) :
    h.materialize d
      = if d.name.isEmpty then h.create d else (h.update d).bind (h.afterUpdate d) := by
  unfold materialize
  by_cases he : d.name.isEmpty = true
  · -- Whatever comes of the creation, there is no name to update.
    have hn : d.name = "" := String.isEmpty_iff.1 he
    rw [if_pos he, if_pos he, attempts_create]
    simp only [hn, ne_eq, not_true_eq_false, false_and, and_false, if_false]
    exact Program.bind_done _
  · have hn : d.name ≠ "" := fun hn => he (String.isEmpty_iff.2 hn)
    rw [if_neg he, if_neg he, attempts_update]
    refine congrArg (h.update d).bind (funext fun updated => ?_)
    simp only [attempts_after_loss hn, and_true]
    rfl

/-- A write that begins with an update that did not lose the secret makes no other attempt. -/
theorem run_materialize_of_kept {σ : Type} (server : Program.Server storeInterface σ) {state : σ}
    (hn : d.name ≠ "") (hr : lostSecret ((h.update d).run server state).result = false) :
    (h.materialize d).run server state = (h.update d).run server state ∧
      (h.materialize d).exchanges server state = (h.update d).exchanges server state := by
  have hend : h.afterUpdate d ((h.update d).run server state).result
      = .done ((h.update d).run server state).result := by
    unfold afterUpdate
    rw [hr]
    rfl
  rw [materialize_eq, if_neg (fun he => hn (String.isEmpty_iff.1 he)), Program.run_bind,
    Program.exchanges_bind, hend]
  simp only [Program.run_done, Program.exchanges, Program.steps_done, List.map_nil,
    List.append_nil, and_self]

/-! ### The whole sync -/

theorem write_error (h : Handler) (recreate : Bool) (e : ProviderError) :
    h.write recreate (.error e) = .done (.error (h.failure (.dataFetch e))) := rfl

theorem write_ok (h : Handler) (recreate : Bool) (data : SecretData) :
    h.write recreate (.ok data)
      = (h.materialize (h.desired recreate data)).bind fun written =>
          .done (written.mapError h.failure) := rfl

/-- What is reported at the end of a sync. -/
def syncReport : Except SyncError Secret → List Event
  | .ok _ => [.measure .syncTimed]
  | .error e => [.measure .syncTimed, .measure (.syncFailed e.reason.text)]

/-- A sync asks for the data, writes the secret and reports. -/
theorem sync_eq (h : Handler) (provider : StoreProgram (Except ProviderError SecretData))
    (recreate : Bool) :
    h.sync provider recreate
      = provider.bind fun data => (h.write recreate data).bind fun result =>
          reporting (syncReport result) (.done result) := by
  refine congrArg provider.bind (funext fun data => ?_)
  refine congrArg (h.write recreate data).bind (funext fun result => ?_)
  cases result <;> rfl

section
variable {σ : Type} (server : Program.Server storeInterface σ)
  (provider : StoreProgram (Except ProviderError SecretData)) (recreate : Bool) (s : σ)

/-- A sync ends as its write does, which starts where the data provider ended. -/
theorem run_sync (h : Handler) :
    (h.sync provider recreate).run server s =
      let fetched := provider.run server s
      let written := (h.write recreate fetched.result).run server fetched.state
      ⟨written.result, fetched.events ++ (written.events ++ syncReport written.result),
        written.state⟩ := by
  simp only [sync_eq, Program.run_bind, Program.run_reporting, Program.run_done, List.append_nil]

/-- A write with data makes the requests of its attempts. -/
theorem exchanges_write (h : Handler) (data : SecretData) :
    (h.write recreate (.ok data)).exchanges server s
      = (h.materialize (h.desired recreate data)).exchanges server s := by
  rw [write_ok, Program.exchanges_bind]
  exact List.append_nil _

theorem result_write (h : Handler) (data : SecretData) :
    ((h.write recreate (.ok data)).run server s).result
      = ((h.materialize (h.desired recreate data)).run server s).result.mapError h.failure := by
  rw [write_ok, Program.run_bind]
  rfl

/-- The requests of a sync are those of its data provider and then those of its write. -/
theorem steps_sync (h : Handler) :
    (h.sync provider recreate).steps server s =
      let fetched := provider.run server s
      provider.steps server s ++ (h.write recreate fetched.result).steps server fetched.state := by
  simp only [sync_eq, Program.steps_bind, Program.steps_reporting, Program.steps_done,
    List.append_nil]

theorem exchanges_sync (h : Handler) :
    (h.sync provider recreate).exchanges server s =
      let fetched := provider.run server s
      provider.exchanges server s
        ++ (h.write recreate fetched.result).exchanges server fetched.state := by
  unfold Program.exchanges
  rw [steps_sync, List.map_append]

/-- A sync that has its data and does not lose the secret to an update is this update. -/
theorem sync_of_kept (h : Handler) (data : SecretData)
    (hn : h.target.effectiveName recreate ≠ "")
    (hr : lostSecret ((h.update (h.desired recreate data)).run server s).result = false) :
    (h.sync (.done (.ok data)) recreate).exchanges server s
        = (h.update (h.desired recreate data)).exchanges server s ∧
      ((h.sync (.done (.ok data)) recreate).run server s).result
        = ((h.update (h.desired recreate data)).run server s).result.mapError h.failure := by
  obtain ⟨hrun, hexchanges⟩ := run_materialize_of_kept server hn hr
  constructor
  · rw [exchanges_sync]
    exact (exchanges_write server recreate s h data).trans hexchanges
  · rw [run_sync, ← hrun]
    exact result_write server recreate s h data

end

/-- A write that ends well had data and made the attempts for it. -/
theorem of_write_ok {σ : Type} {server : Program.Server storeInterface σ} {recreate : Bool}
    {answer : Except ProviderError SecretData} {state : σ} {s : Secret}
    (hs : ((h.write recreate answer).run server state).result = .ok s) :
    ∃ data, answer = .ok data ∧
      ((h.materialize (h.desired recreate data)).run server state).result = .ok s ∧
      ((h.write recreate answer).run server state).state
        = ((h.materialize (h.desired recreate data)).run server state).state := by
  cases answer with
  | error e =>
    rw [write_error] at hs
    cases hs
  | ok data =>
    rw [result_write] at hs
    refine ⟨data, rfl, ?_, by rw [write_ok, Program.run_bind]; rfl⟩
    cases hwritten : ((h.materialize (h.desired recreate data)).run server state).result with
    | error e =>
      rw [hwritten] at hs
      cases hs
    | ok written =>
      rw [hwritten] at hs
      exact congrArg Except.ok (Except.ok.inj hs)

end Handler

end SecretSync
