import SecretSync.Command.Owners
import SecretSync.Proofs.Binding.Payload
import SecretSync.Proofs.Cluster.Transactions
import SecretSync.Proofs.Command.Store

/-!
# `SecretSync.Proofs.Binding.Serializability`: owners that write one secret together

Any number of owners may sync the same secret while others are unlinked from
it, without locks. A sync and an unlinking are writers in the sense of
`Transacts`: what they send is made of what they have read, with its version.

`serializable` is the main statement. Whatever the interleaving of the single
requests, the secret ends as it would if the writes that succeeded had been
made one after the other, each from scratch. `Actor.Makes` says what each of
them makes of the secret, key by key for a sync. A sync that fails, and an
unlinking that finds nothing to do, leave no trace.
-/

set_option autoImplicit false

namespace SecretSync

open Transaction (Transacts Concludes)

/-! ### Versions do not matter to marking -/

/-- A marking without the version of the object. -/
def Marked.unversioned (marked : Marked) : Marked :=
  { marked with metadata := marked.metadata.unversioned }

namespace Ownership

theorem change_unversioned (f : Tags → Tags × Bool) (m : ObjectMeta) :
    change f m.unversioned = (change f m).map Marked.unversioned := by
  -- Tags are read from the labels and the annotations, which carry no version.
  have htags : Tags.ofMetadata m.unversioned = Tags.ofMetadata m := rfl
  simp only [change]
  rw [htags]
  split
  · rfl
  · split <;> rfl

/-- A marker operation that writes does the same to the labels and the annotations of an object of
any version. -/
theorem updateFor_unversioned (op : String → Tags → Tags × Bool) (owner : OwnerKey)
    (m : ObjectMeta) :
    (updateFor owner op).mark m.unversioned
      = ((updateFor owner op).mark m).map Marked.unversioned := by
  rw [mark_updateFor, mark_updateFor]
  cases storedKey owner with
  | error e => rfl
  | ok key => exact change_unversioned (op key) m

theorem markManaged_unversioned (owner : OwnerKey) (m : ObjectMeta) :
    markManaged owner m.unversioned = (markManaged owner m).map Marked.unversioned :=
  updateFor_unversioned (fun key t => t.addManager key) owner m

theorem unmarkReferenced_unversioned (owner : OwnerKey) (m : ObjectMeta) :
    unmarkReferenced owner m.unversioned = (unmarkReferenced owner m).map Marked.unversioned :=
  updateFor_unversioned (fun key t => t.removeReference key) owner m

end Ownership

/-! ### A sync as a writer -/

namespace Handler

/-- What a sync makes of a secret: the prepared one, unless marking refuses. -/
def overwrite (h : Handler) (d : DesiredSecret) (current : Option Secret) : Option Secret :=
  match h.prepared d current with
  | .ok secret => some secret
  | .error _ => current

theorem overwrite_of_prepared {h : Handler} {d : DesiredSecret} {current : Option Secret}
    {secret : Secret} (hp : h.prepared d current = .ok secret) :
    h.overwrite d current = some secret := by
  unfold overwrite
  rw [hp]

/-- A sync of wanted contents, as a writer that ends with a fault or with the written secret. -/
def writing (h : Handler) (d : DesiredSecret) (ε : Type) : Transaction (Except ε Secret) where
  makes current s := h.prepared d current = .ok s
  idle r := ∃ e, r = .error e
  wrote r := ∃ s, r = .ok s

variable {t : DeploymentTarget} {d : DesiredSecret} {seen : Secret → Prop}

/-- Versions do not matter to what is sent. -/
theorem prepared_unversioned (t : DeploymentTarget) (d : DesiredSecret)
    (current : Option Secret) :
    (⟨t, .ofTags⟩ : Handler).prepared d (current.map Secret.unversioned)
      = ((⟨t, .ofTags⟩ : Handler).prepared d current).map Secret.unversioned := by
  have hover : d.over t.ns (current.map Secret.unversioned) = (d.over t.ns current).unversioned := by
    cases current <;> rfl
  have hmarked := Ownership.markManaged_unversioned t.owner (d.over t.ns current).metadata
  unfold prepared
  rw [hover]
  show (Ownership.markManaged t.owner (d.over t.ns current).metadata.unversioned).map _
    = ((Ownership.markManaged t.owner (d.over t.ns current).metadata).map _).map _
  rw [hmarked]
  cases Ownership.markManaged t.owner (d.over t.ns current).metadata <;> rfl

theorem versionless_writing (t : DeploymentTarget) (d : DesiredSecret) (ε : Type) :
    (writing ⟨t, .ofTags⟩ d ε).Versionless := by
  intro current s hp
  show prepared _ d (current.map _) = .ok s.unversioned
  rw [prepared_unversioned, show prepared _ d current = .ok s from hp]
  rfl

/-- A sync may end with a fault at any time before it has written. -/
theorem transacts_fault {h : Handler} {ε : Type} (ns name : String) (events : List Event) (e : ε) :
    Transacts ns name (h.writing d ε) seen (Program.reporting events (.done (.error e))) := by
  have hidle : (h.writing d ε).idle (.error e) := ⟨e, rfl⟩
  exact Transaction.transacts_reporting (.done _ hidle) events

/-- A sync that has written ends with the written secret. -/
theorem concludes_written {h : Handler} {ε : Type} (events : List Event) (s : Secret) :
    Concludes (h.writing d ε).wrote (Program.reporting events (.done (.ok s))) := by
  have hwrote : (h.writing d ε).wrote (.ok s) := ⟨s, rfl⟩
  exact Transaction.concludes_reporting (.done _ hwrote) events

/-- A creation is a writer. -/
theorem transacts_create (hn : d.name ≠ "") :
    Transacts t.ns d.name (writing ⟨t, .ofTags⟩ d SyncFault) seen
      (onStore (create ⟨t, .ofTags⟩ d)) := by
  cases hp : (⟨t, .ofTags⟩ : Handler).prepared d none with
  | error e =>
    rw [create_of_refused hp]
    exact transacts_fault _ _ [] _
  | ok secret =>
    obtain ⟨hname, -, hns⟩ := name_of_prepared_none hp
    rw [create_of_prepared hp, onStore_request]
    simp only [onStore_reporting]
    refine .create secret _ hp (ObjectMeta.name_eq_some hname hn) hns ?_ ?_
    · intro e
      exact transacts_fault _ _ _ _
    · intro stored
      exact concludes_written _ stored

/-- An update is a writer. -/
theorem transacts_update :
    Transacts t.ns d.name (writing ⟨t, .ofTags⟩ d SyncFault) seen
      (onStore (update ⟨t, .ofTags⟩ d)) := by
  rw [update_eq, onStore_request]
  refine .get _ (fun e => transacts_fault _ _ [] _) ?_
  intro stored
  show Transacts _ _ _ _ (onStore (replace ⟨t, .ofTags⟩ d stored))
  cases hp : (⟨t, .ofTags⟩ : Handler).prepared d (some stored) with
  | error e =>
    rw [replace_of_refused hp]
    exact transacts_fault _ _ [] _
  | ok secret =>
    obtain ⟨hname, hversion⟩ := name_of_prepared_some hp
    rw [replace_of_prepared hp, onStore_reporting, onStore_request]
    simp only [onStore_reporting]
    refine Transaction.transacts_reporting ?_ _
    refine .update stored secret _ (.inl rfl) hp hname hversion ?_ ?_
    · intro e
      exact transacts_fault _ _ _ _
    · intro stored
      exact concludes_written _ stored

/-- A write under a name is a writer: it goes on only after it has failed to write. -/
theorem transacts_materialize (hn : d.name ≠ "") :
    Transacts t.ns d.name (writing ⟨t, .ofTags⟩ d SyncFault) seen
      (onStore (materialize ⟨t, .ofTags⟩ d)) := by
  rw [materialize_eq, if_neg fun he => hn (String.isEmpty_iff.1 he), onStore_bind]
  refine transacts_update.bind rfl ?_ ?_
  · rintro r ⟨f, rfl⟩
    unfold afterUpdate
    split
    · -- The update has lost the secret without a write, so the creation may follow.
      rw [onStore_reporting, onStore_bind]
      refine Transaction.transacts_reporting ?_ _
      refine (transacts_create hn).bind rfl ?_ ?_
      · rintro r ⟨f, rfl⟩
        unfold afterCreation
        split
        · rw [onStore_reporting]
          exact Transaction.transacts_reporting transacts_update _
        · exact transacts_fault _ _ [] f
      · rintro r ⟨s, rfl⟩
        exact concludes_written [] s
    · exact transacts_fault _ _ [] f
  · rintro r ⟨s, rfl⟩
    exact concludes_written [] s

/-- A sync with data is a writer. -/
theorem transacts_sync {recreate : Bool} {data : SecretData}
    (hn : t.effectiveName recreate ≠ "") :
    Transacts t.ns (t.effectiveName recreate)
      (writing ⟨t, .ofTags⟩ (desired ⟨t, .ofTags⟩ recreate data) SyncError) seen
      (onStore (sync ⟨t, .ofTags⟩ (.done (.ok data)) recreate)) := by
  rw [sync_eq, Program.done_bind, write_ok, Program.bind_assoc, onStore_bind]
  have hwrite : Transacts t.ns (t.effectiveName recreate)
      (writing ⟨t, .ofTags⟩ (desired ⟨t, .ofTags⟩ recreate data) SyncFault) seen
      (onStore (materialize ⟨t, .ofTags⟩ (desired ⟨t, .ofTags⟩ recreate data))) :=
    transacts_materialize (d := desired ⟨t, .ofTags⟩ recreate data) hn
  refine hwrite.bind rfl ?_ ?_
  · rintro r ⟨f, rfl⟩
    rw [Program.done_bind, onStore_reporting]
    exact transacts_fault _ _ _ _
  · rintro r ⟨s, rfl⟩
    rw [Program.done_bind, onStore_reporting]
    exact concludes_written _ s

/-- A sync without data makes no request. -/
theorem sync_of_unavailable (h : Handler) (e : ProviderError) (recreate : Bool) :
    h.sync (.done (.error e)) recreate
      = Program.reporting (syncReport (.error (h.failure (.dataFetch e))))
          (.done (.error (h.failure (.dataFetch e)))) := by
  rw [sync_eq, Program.done_bind, write_error, Program.done_bind]

end Handler

/-! ### An unlinking as a writer -/

namespace Command

open Ownership (unmarkReferenced)

/-- What an unlinking makes of a secret: the owner is taken off, unless marking refuses. -/
def unlinked (owner : OwnerKey) (current : Option Secret) : Option Secret :=
  current.map fun secret =>
    match unmarkReferenced owner secret.metadata with
    | .ok marked => { secret with metadata := marked.metadata }
    | .error _ => secret

/-- The secret that an unlinking writes: one from which the owner could be taken off. -/
def Unlinks (owner : OwnerKey) (current : Option Secret) (s : Secret) : Prop :=
  ∃ stored m, current = some stored ∧ unmarkReferenced owner stored.metadata = .ok ⟨true, m⟩ ∧
    s = { stored with metadata := m }

theorem unlinked_of_unlinks {owner : OwnerKey} {current : Option Secret} {s : Secret}
    (h : Unlinks owner current s) : unlinked owner current = some s := by
  obtain ⟨stored, m, rfl, hm, rfl⟩ := h
  simp only [unlinked, Option.map_some, hm]

/-- An unlinking, as a writer that ends well if it has written. -/
def unlinking (owner : OwnerKey) : Transaction CommandResult where
  makes := Unlinks owner
  idle _ := True
  wrote r := r = .ok ()

/-- What an unlinking goes on with after it has read the secret. -/
def unlinkRead (ns name : String) (owner : OwnerKey) (secret : Secret) :
    ClusterProgram CommandResult :=
  match unmarkReferenced owner secret.metadata with
  | .error e => .done (.error (.ofMarker e))
  | .ok marked =>
    if !marked.changed then
      .emit (.print ("Secret " ++ secretLabel ns name ++ " is not referenced by '" ++
        owner.toString ++ "', nothing to do")) (.done (.ok ()))
    else
      .request (.store (.update ns { secret with metadata := marked.metadata })) fun
        | .error e => .done (.error ((Failure.ofStore e).within
            ("Failed to update secret " ++ secretLabel ns name)))
        | .ok _ => concludeUnlink ns name owner marked.metadata

/-- An unlinking reads the secret first. -/
theorem unlink_eq (ns name : String) (owner : OwnerKey) :
    unlink ns name owner
      = .request (.store (.get ns name)) fun
        | .error e => .done (.error ((Failure.ofStore e).within
            ("Failed to get secret " ++ secretLabel ns name)))
        | .ok secret => unlinkRead ns name owner secret := by
  refine congrArg (Program.request (I := clusterInterface) (.store (.get ns name)))
    (funext fun reply => ?_)
  cases reply with
  | error e => rfl
  | ok secret =>
    show _ = unlinkRead ns name owner secret
    unfold unlinkRead
    simp only [Program.done_bind, Program.refine, Program.pure_eq]
    cases unmarkReferenced owner secret.metadata with
    | error e => rfl
    | ok marked =>
      dsimp only
      split
      · rfl
      · refine congrArg (Program.request (I := clusterInterface) _) (funext fun reply => ?_)
        cases reply <;> rfl

/-- The end of an unlinking makes no request. -/
theorem concludes_concludeUnlink (ns name : String) (owner : OwnerKey) (m : ObjectMeta) :
    Concludes (unlinking owner).wrote (concludeUnlink ns name owner m) := by
  have hend : Concludes (unlinking owner).wrote (.done (.ok ())) := .done _ rfl
  unfold concludeUnlink
  simp only [Program.bind_eq, Program.tellAll_bind]
  refine .emit _ _ (Transaction.concludes_reporting ?_ _)
  split
  · exact .emit _ _ hend
  · exact hend

theorem versionless_unlinking (owner : OwnerKey) : (unlinking owner).Versionless := by
  rintro current s ⟨stored, m, rfl, hm, rfl⟩
  have hmarked := Ownership.unmarkReferenced_unversioned owner stored.metadata
  rw [hm] at hmarked
  exact ⟨stored.unversioned, m.unversioned, rfl, hmarked, rfl⟩

/-- An unlinking is a writer. -/
theorem transacts_unlink (ns name : String) (owner : OwnerKey) {seen : Secret → Prop} :
    Transacts ns name (unlinking owner) seen (unlink ns name owner) := by
  have hend : ∀ {seen : Secret → Prop} (r : CommandResult),
      Transacts ns name (unlinking owner) seen (.done r) := by
    intro seen r
    exact .done r trivial
  rw [unlink_eq]
  refine .get _ (fun e => hend _) ?_
  intro secret
  show Transacts _ _ _ _ (unlinkRead ns name owner secret)
  unfold unlinkRead
  cases hm : unmarkReferenced owner secret.metadata with
  | error e => exact hend _
  | ok marked =>
    obtain ⟨changed, m⟩ := marked
    cases changed with
    | false => exact .emit _ _ (hend _)
    | true =>
      -- Taking an owner off leaves the name and the version of what was read.
      have hsame := Ownership.sameObject_of_unmarkReferenced hm
      unfold Ownership.sameObject at hsame
      refine .update secret _ _ (.inl rfl) ⟨secret, m, rfl, hm, rfl⟩ ?_ ?_ (fun e => hend _) ?_
      · rw [hsame]
      · rw [hsame]
      · intro stored
        exact concludes_concludeUnlink ns name owner m

end Command

/-! ### Owners side by side -/

/-- One of several owners that work on the same secret. -/
inductive Actor where
  /-- Syncs a target with the answer of a data provider. -/
  | sync (t : DeploymentTarget) (data : Except ProviderError SecretData) (recreate : Bool)
  /-- Takes an owner off. -/
  | unlink (owner : OwnerKey)

namespace Actor

/-- What an actor ends with. -/
abbrev Result := Except SyncError Secret ⊕ CommandResult

/-- The program of an actor on the secret `ns/name`. -/
def program (ns name : String) : Actor → ClusterProgram Result
  | .sync t data recreate =>
    (onStore (Handler.sync ⟨t, .ofTags⟩ (.done data) recreate)).bind fun r => .done (.inl r)
  | .unlink owner => (Command.unlink ns name owner).bind fun r => .done (.inr r)

/-- Whether an actor works on the secret `ns/name`. -/
def WorksOn (ns name : String) : Actor → Prop
  | .sync t _ recreate => t.ns = ns ∧ t.effectiveName recreate = name
  | .unlink _ => True

/-- What the write of an actor makes of the secret, from scratch. -/
def apply : Actor → Option Secret → Option Secret
  | .sync t (.ok data) recreate =>
    Handler.overwrite ⟨t, .ofTags⟩ (Handler.desired ⟨t, .ofTags⟩ recreate data)
  | .sync _ (.error _) _ => id
  | .unlink owner => Command.unlinked owner

/-- The secret that an actor makes when it writes. -/
def Writes : Actor → Option Secret → Secret → Prop
  | .sync t (.ok data) recreate, current, s =>
    Handler.prepared ⟨t, .ofTags⟩ (Handler.desired ⟨t, .ofTags⟩ recreate data) current = .ok s
  | .sync _ (.error _) _, _, _ => False
  | .unlink owner, current, s => Command.Unlinks owner current s

/-- The same, but for a sync key by key: it merges what it wants over what is there. -/
def Makes : Actor → Option Secret → Secret → Prop
  | .sync t (.ok data) recreate, current, s =>
    Handler.Merges t (Handler.desired ⟨t, .ofTags⟩ recreate data) current s
  | .sync _ (.error _) _, _, _ => False
  | .unlink owner, current, s => Command.Unlinks owner current s

/-- The result of an actor that has not written. -/
def Idle : Actor → Result → Prop
  | .sync _ _ _, r => ∃ e, r = .inl (.error e)
  | .unlink _, r => ∃ o, r = .inr o

/-- The result of an actor that has written. -/
def Wrote : Actor → Result → Prop
  | .sync _ _ _, r => ∃ s, r = .inl (.ok s)
  | .unlink _, r => r = .inr (.ok ())

def transaction (a : Actor) : Transaction Result := ⟨a.Writes, a.Idle, a.Wrote⟩

theorem apply_of_writes {a : Actor} {current : Option Secret} {s : Secret}
    (h : a.Writes current s) : a.apply current = some s := by
  cases a with
  | unlink owner => exact Command.unlinked_of_unlinks h
  | sync t data recreate =>
    cases data with
    | error e => exact h.elim
    | ok data => exact Handler.overwrite_of_prepared h

theorem makes_of_writes {a : Actor} {current : Option Secret} {s : Secret}
    (h : a.Writes current s) : a.Makes current s := by
  cases a with
  | unlink owner => exact h
  | sync t data recreate =>
    cases data with
    | error e => exact h.elim
    | ok data => exact Handler.merges_of_prepared h

theorem versionless_transaction (a : Actor) : a.transaction.Versionless := by
  cases a with
  | unlink owner => exact Command.versionless_unlinking owner
  | sync t data recreate =>
    cases data with
    | error e => exact fun current s h => h
    | ok data => exact Handler.versionless_writing t _ SyncError

variable {ns name : String} {seen : Secret → Prop}

/-- Every actor is a writer. -/
theorem transacts_program {a : Actor} (ha : a.WorksOn ns name) (hne : name ≠ "") :
    Transacts ns name a.transaction seen (a.program ns name) := by
  cases a with
  | unlink owner =>
    refine (Command.transacts_unlink ns name owner).bind rfl ?_ ?_
    · intro r _
      exact .done _ ⟨r, rfl⟩
    · intro r hr
      exact .done _ (congrArg Sum.inr hr)
  | sync t data recreate =>
    obtain ⟨rfl, rfl⟩ := ha
    cases data with
    | error e =>
      show Transacts _ _ _ _ ((onStore (Handler.sync _ (.done (.error e)) recreate)).bind _)
      rw [Handler.sync_of_unavailable, onStore_reporting, Program.reporting_bind]
      refine Transaction.transacts_reporting (.done _ ?_) _
      exact ⟨_, rfl⟩
    | ok data =>
      refine (Handler.transacts_sync hne).bind rfl ?_ ?_
      · rintro r ⟨e, rfl⟩
        exact .done _ ⟨e, rfl⟩
      · rintro r ⟨s, rfl⟩
        exact .done _ ⟨s, rfl⟩

end Actor

open Cluster (withStore)
open Program (Interleaved)

/-- The transaction of the actor at a position; nothing is written where there is none. -/
def transactionAt (actors : List Actor) (i : Nat) : Transaction Actor.Result :=
  (actors[i]?.map Actor.transaction).getD ⟨fun _ _ => False, fun _ => True, fun _ => True⟩

theorem transactionAt_of_getElem? {actors : List Actor} {i : Nat} {a : Actor}
    (h : actors[i]? = some a) : transactionAt actors i = a.transaction := by
  unfold transactionAt
  rw [h]
  rfl

theorem versionless_transactionAt (actors : List Actor) (i : Nat) :
    (transactionAt actors i).Versionless := by
  cases h : actors[i]? with
  | none =>
    unfold transactionAt
    rw [h]
    exact fun current s h => h
  | some a =>
    rw [transactionAt_of_getElem? h]
    exact a.versionless_transaction

/-- Writers at positions are the actors at these positions. -/
theorem succession_of_positions {actors : List Actor} {order : List Nat}
    {current final : Option Secret}
    (h : Succession (fun i => (transactionAt actors i).makes) order current final) :
    Succession Actor.Writes (order.filterMap (actors[·]?)) current final := by
  induction h with
  | nil current => exact .nil current
  | @cons i rest current final s h hrest ih =>
    cases ha : actors[i]? with
    | none =>
      unfold transactionAt at h
      rw [ha] at h
      exact h.elim
    | some a =>
      rw [transactionAt_of_getElem? ha] at h
      rw [List.filterMap_cons_some ha]
      exact .cons s h ih

/-- Actors that all work on one secret are writers of it, and none has written yet. -/
theorem allTransact_programs {actors : List Actor} {ns name : String} (hne : name ≠ "")
    (hactors : ∀ a ∈ actors, a.WorksOn ns name) (c : Cluster StoreError) :
    Transaction.AllTransact ns name (transactionAt actors) (fun _ => False) c
      (actors.map (·.program ns name)) := by
  intro i p hp
  refine ⟨fun h => h.elim, fun _ => ?_⟩
  rw [List.getElem?_map] at hp
  obtain ⟨a, ha, rfl⟩ := Option.map_eq_some_iff.1 hp
  rw [transactionAt_of_getElem? ha]
  exact Actor.transacts_program (hactors a (List.mem_of_getElem? ha)) hne

/-- Any number of actors on one secret, their requests in any order. The writes that succeeded
belong to different actors. A sync has written exactly if it ends well, and an unlinking that has
written ends well. The secret at the end is what the actors that have written make of the secret at
the beginning one after the other, in the order of their writes; none of them is refused in its
turn. -/
theorem serializable {c c' : Cluster StoreError} (hc : c.Quiet) {ns name : String}
    (hne : name ≠ "") {actors : List Actor} (hactors : ∀ a ∈ actors, a.WorksOn ns name)
    {elsewhere : Program.Server clusterInterface (Cluster StoreError)}
    {log : List (Nat × Step clusterInterface (Cluster StoreError))} {results : List Actor.Result}
    (hrun : Interleaved (withStore elsewhere) (actors.map (·.program ns name)) c log results c') :
    let order := Transaction.writers log
    order.Nodup ∧ (∀ i ∈ order, i < actors.length) ∧ results.length = actors.length ∧
      (∀ i t data recreate, actors[i]? = some (.sync t data recreate) →
        ∃ r, results[i]? = some (.inl r) ∧ (i ∈ order ↔ ∃ s, r = .ok s)) ∧
      (∀ i owner, actors[i]? = some (.unlink owner) →
        ∃ r, results[i]? = some (.inr r) ∧ (i ∈ order → r = .ok ())) ∧
      Succession Actor.Makes (order.filterMap (actors[·]?))
        ((c.secret? ns name).map Secret.unversioned)
        ((c'.secret? ns name).map Secret.unversioned) ∧
      (c'.secret? ns name).map Secret.unversioned
        = (order.filterMap (actors[·]?)).foldl (fun current a => a.apply current)
            ((c.secret? ns name).map Secret.unversioned) := by
  intro order
  have hserial := Transaction.serial_of_interleaved hrun (versionless_transactionAt actors) hne hc
    (allTransact_programs hne hactors c)
  have hlength : results.length = actors.length := by
    rw [hrun.length_eq, List.length_map]
  have hresult : ∀ {i : Nat} {a : Actor}, actors[i]? = some a → ∃ r, results[i]? = some r ∧
      (i ∈ order → a.Wrote r) ∧ (i ∉ order → a.Idle r) := by
    intro i a ha
    have hlt : i < results.length := hlength ▸ (List.getElem?_eq_some_iff.1 ha).1
    have hr : results[i]? = some results[i] := List.getElem?_eq_getElem hlt
    have hwrote := hserial.wrote i _ hr
    have hidle := hserial.idle i _ hr
    rw [transactionAt_of_getElem? ha] at hwrote hidle
    exact ⟨_, hr, fun hi => hwrote (.inr hi), hidle fun h => h⟩
  have hwrites := succession_of_positions hserial.content
  refine ⟨hserial.nodup, ?_, hlength, ?_, ?_, hwrites.mono fun _ _ _ => Actor.makes_of_writes,
    hwrites.eq_foldl fun _ _ _ => Actor.apply_of_writes⟩
  · intro i hi
    have hlt := (hserial.pending i hi).2
    rwa [List.length_map] at hlt
  · intro i t data recreate ha
    obtain ⟨r, hr, hwrote, hidle⟩ := hresult ha
    by_cases hi : i ∈ order
    · obtain ⟨s, rfl⟩ := hwrote hi
      exact ⟨.ok s, hr, fun _ => ⟨s, rfl⟩, fun _ => hi⟩
    · obtain ⟨e, rfl⟩ := hidle hi
      exact ⟨.error e, hr, fun h => absurd h hi, fun ⟨s, hs⟩ => nomatch hs⟩
  · intro i owner ha
    obtain ⟨r, hr, hwrote, hidle⟩ := hresult ha
    by_cases hi : i ∈ order
    · obtain rfl := hwrote hi
      exact ⟨.ok (), hr, fun _ => rfl⟩
    · obtain ⟨o, rfl⟩ := hidle hi
      exact ⟨o, hr, fun h => absurd h hi⟩

/-! #### A lost race -/

/-- Two owners that sync the same secret. -/
def rivals : List Actor :=
  [.sync (.inNamespace { name := "db" } "app" ⟨"team-a", "creds"⟩ "") (.ok .empty) false,
    .sync (.inNamespace { name := "db" } "app" ⟨"team-b", "creds"⟩ "") (.ok .empty) false]

/-- The secret before they do. -/
def unowned : Secret where
  metadata := { name := some "db", ns := some "app" }

theorem quiet_unowned : (Cluster.empty.put unowned).Quiet where
  versioned :=
    have hnone : unowned.metadata.resourceVersion = none := rfl
    (Cluster.advances_put .empty hnone).versioned Cluster.versioned_empty
  hooks := rfl

/-- A cluster that answers no requests about resources. -/
def noResources : Program.Server clusterInterface (Cluster StoreError)
  | .store r, c => Cluster.storeServer r c
  | .fetch _ _, c => (.error .unreadable, c)
  | .recordTargets _ _ _, c => (.error .unreadable, c)

/-- Whether an actor ended well. -/
def Actor.succeeded : Actor.Result → Bool
  | .inl (.ok _) => true
  | .inr (.ok _) => true
  | _ => false

/-- Both owners read before either writes. The one that writes first wins, and only its write
counts. -/
theorem serializable_rivals :
    ∃ log results c', Interleaved (withStore noResources) (rivals.map (·.program "app" "db"))
        (Cluster.empty.put unowned) log results c' ∧
      0 ∉ Transaction.writers log ∧ 1 ∈ Transaction.writers log := by
  obtain ⟨log, hlog, -⟩ := Program.interleaved_weave (withStore noResources) [0, 1, 1, 0]
    (rivals.map (·.program "app" "db")) (Cluster.empty.put unowned)
  have hends : ((Program.weave [0, 1, 1, 0] (rivals.map (·.program "app" "db"))).run
      (withStore noResources) (Cluster.empty.put unowned)).result.map Actor.succeeded
        = [false, true] := by decide +kernel
  have hactors : ∀ a ∈ rivals, a.WorksOn "app" "db" := by
    intro a ha
    rcases List.mem_pair.1 ha with rfl | rfl <;> exact ⟨rfl, by decide⟩
  -- How the syncs end says who has written.
  obtain ⟨-, -, -, hsyncs, -⟩ := serializable quiet_unowned (by decide) hactors hlog
  refine ⟨log, _, _, hlog, fun h0 => ?_, ?_⟩
  · obtain ⟨r, hr, hiff⟩ := hsyncs 0 _ _ _ rfl
    obtain ⟨s, rfl⟩ := hiff.1 h0
    have hfirst := congrArg (·[0]?) hends
    simp only [List.getElem?_map, hr] at hfirst
    cases hfirst
  · obtain ⟨r, hr, hiff⟩ := hsyncs 1 _ _ _ rfl
    have hsecond := congrArg (·[1]?) hends
    simp only [List.getElem?_map, hr] at hsecond
    cases r with
    | error e => cases hsecond
    | ok s => exact hiff.2 ⟨s, rfl⟩

end SecretSync
