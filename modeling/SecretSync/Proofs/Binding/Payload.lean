import SecretSync.Cluster.Basic
import SecretSync.Proofs.Binding.Prepared
import SecretSync.Proofs.Binding.Calls

/-!
# `SecretSync.Proofs.Binding.Payload`: the secrets that a sync sends

A sync may send a secret up to three times, and on each attempt it makes it
anew: for a creation from nothing, and for a replacement from what it has read
right before. `WriteCalls.rooted` says so along the grammar of the calls.

`sync_payload` is the main statement. Every secret that is sent, whatever the
store answers and whether or not it is accepted, carries everything wanted and
is managed by the owner alone (`Carries`). A secret to create is that and
nothing else (`Starts`). A secret to replace another keeps everything of it
that is not wanted otherwise (`Revises`).
-/

set_option autoImplicit false

namespace SecretSync

namespace Handler

open Program (Server)

variable {t : DeploymentTarget} {d : DesiredSecret}

/-! ### What a secret that is sent is made of -/

/-- A secret that carries everything wanted, and that the owner of the target manages alone. -/
structure Carries (t : DeploymentTarget) (d : DesiredSecret) (secret : Secret) : Prop where
  managed : Ownership.isManagedBy t.owner secret.metadata = .ok true
  exclusive : ∀ j : OwnerKey, j.toString ≠ t.owner.toString →
    Ownership.isManagedBy j secret.metadata ≠ .ok true
  data : ∀ k v, d.data.get? k = some v → (secret.data.getD .empty).get? k = some v
  labels : ∀ k v, k ≠ linkedLabel → d.spec.labels.get? k = some v →
    secret.metadata.labelMap.get? k = some v
  annotations : ∀ k v, k ≠ referencesAnnotation → k ≠ managerAnnotation →
    d.spec.annotations.get? k = some v → secret.metadata.annotationMap.get? k = some v

/-- A secret to create: the wanted one, under its name if it has one, with the ownership tags and
no other field. -/
structure Starts (t : DeploymentTarget) (d : DesiredSecret) (secret : Secret) : Prop where
  fields : secret = {
    metadata := {
      name := if d.name = "" then none else some d.name
      generateName := some d.generateName
      ns := some t.ns
      labels := secret.metadata.labels
      annotations := secret.metadata.annotations }
    data := some d.data
    type := d.spec.type }
  labels : ∀ k, k ≠ linkedLabel → secret.metadata.labelMap.get? k = d.spec.labels.get? k
  annotations : ∀ k, k ≠ referencesAnnotation → k ≠ managerAnnotation →
    secret.metadata.annotationMap.get? k = d.spec.annotations.get? k

/-- A secret to replace another: only data, labels and annotations may differ, and of these only
what is wanted and the ownership tags. -/
structure Revises (d : DesiredSecret) (stored secret : Secret) : Prop where
  fields : secret = { stored with
    metadata := { stored.metadata with
      labels := secret.metadata.labels
      annotations := secret.metadata.annotations }
    data := secret.data }
  data : ∀ k, d.data.get? k = none →
    (secret.data.getD .empty).get? k = (stored.data.getD .empty).get? k
  labels : ∀ k, k ≠ linkedLabel → d.spec.labels.get? k = none →
    secret.metadata.labelMap.get? k = stored.metadata.labelMap.get? k
  annotations : ∀ k, k ≠ referencesAnnotation → k ≠ managerAnnotation →
    d.spec.annotations.get? k = none →
    secret.metadata.annotationMap.get? k = stored.metadata.annotationMap.get? k

/-- The wanted data is put over the stored data. -/
theorem DesiredSecret.get?_data_over (d : DesiredSecret) (ns : String) (stored : Option Secret)
    (k : String) :
    ((d.over ns stored).data.getD .empty).get? k
      = (d.data.get? k).or (stored.bind fun s => (s.data.getD .empty).get? k) := by
  cases stored with
  | none =>
    show d.data.get? k = _
    simp
  | some stored => exact SortedMap.get?_merge _ _ k

theorem carries_of_prepared {stored : Option Secret} {secret : Secret}
    (hp : (⟨t, .ofTags⟩ : Handler).prepared d stored = .ok secret)
    (htrim : Text.trim t.owner.toString = t.owner.toString) : Carries t d secret where
  managed := isManagedBy_of_prepared hp htrim
  exclusive j hne hj := hne (eq_owner_of_isManagedBy hp hj)
  data k v hv := by
    rw [(sameObject_of_prepared hp).2, DesiredSecret.get?_data_over, hv]
    rfl
  labels k v hk hv := by
    rw [get?_labels_of_prepared hp hk, hv]
    rfl
  annotations k v hreferences hmanager hv := by
    rw [get?_annotations_of_prepared hp hreferences hmanager, hv]
    rfl

theorem starts_of_prepared {secret : Secret}
    (hp : (⟨t, .ofTags⟩ : Handler).prepared d none = .ok secret) : Starts t d secret where
  fields := by
    obtain ⟨marked, hm, rfl⟩ := markManaged_of_prepared hp
    have hsame : Ownership.sameObject (d.fresh t.ns).metadata marked.metadata :=
      Ownership.sameObject_of_markManaged hm
    unfold Ownership.sameObject at hsame
    show ({ d.fresh t.ns with metadata := marked.metadata } : Secret) = _
    rw [hsame]
    simp [DesiredSecret.fresh]
  labels k hk := by
    rw [get?_labels_of_prepared hp hk]
    simp
  annotations k hreferences hmanager := by
    rw [get?_annotations_of_prepared hp hreferences hmanager]
    simp

theorem revises_of_prepared {stored secret : Secret}
    (hp : (⟨t, .ofTags⟩ : Handler).prepared d (some stored) = .ok secret) :
    Revises d stored secret where
  fields := by
    obtain ⟨marked, hm, rfl⟩ := markManaged_of_prepared hp
    have hsame : Ownership.sameObject (d.overlay stored).metadata marked.metadata :=
      Ownership.sameObject_of_markManaged hm
    unfold Ownership.sameObject at hsame
    show ({ d.overlay stored with metadata := marked.metadata } : Secret) = _
    rw [hsame]
    rfl
  data k hk := by
    rw [(sameObject_of_prepared hp).2, DesiredSecret.get?_data_over, hk]
    rfl
  labels k hk hnone := by
    rw [get?_labels_of_prepared hp hk, hnone]
    rfl
  annotations k hreferences hmanager hnone := by
    rw [get?_annotations_of_prepared hp hreferences hmanager, hnone]
    rfl

/-- The wanted secret, merged over a stored one or over nothing, and marked: what is wanted, of the
rest what was stored, and the three tags. -/
structure Merges (t : DeploymentTarget) (d : DesiredSecret) (stored : Option Secret)
    (secret : Secret) : Prop where
  data : ∀ k, (secret.data.getD .empty).get? k
    = (d.data.get? k).or (stored.bind fun s => (s.data.getD .empty).get? k)
  labels : ∀ k, k ≠ linkedLabel → secret.metadata.labelMap.get? k
    = (d.spec.labels.get? k).or (stored.bind (·.metadata.labelMap.get? k))
  annotations : ∀ k, k ≠ referencesAnnotation → k ≠ managerAnnotation →
    secret.metadata.annotationMap.get? k
      = (d.spec.annotations.get? k).or (stored.bind (·.metadata.annotationMap.get? k))
  tags : Ownership.ownershipTags secret.metadata
    = (some linkedValue, some t.owner.toString,
        some (withReference t.owner.toString (d.spec.wantedReferences stored)))
  /-- Over nothing there is no other field. -/
  starts : stored = none → Starts t d secret
  /-- A stored secret keeps its other fields. -/
  revises : ∀ old, stored = some old → Revises d old secret
  /-- An owner whose key reads back as it is written is told to manage the secret. -/
  carries : Text.trim t.owner.toString = t.owner.toString → Carries t d secret

theorem merges_of_prepared {stored : Option Secret} {secret : Secret}
    (hp : (⟨t, .ofTags⟩ : Handler).prepared d stored = .ok secret) :
    Merges t d stored secret where
  data k := by
    rw [(sameObject_of_prepared hp).2, DesiredSecret.get?_data_over]
  labels _ hk := get?_labels_of_prepared hp hk
  annotations _ hreferences hmanager := get?_annotations_of_prepared hp hreferences hmanager
  tags := ownershipTags_of_prepared hp
  starts hnone := starts_of_prepared (hnone ▸ hp)
  revises _ hold := revises_of_prepared (hold ▸ hp)
  carries htrim := carries_of_prepared hp htrim

/-! ### Where it comes from -/

/-- What a call of a write sends is prepared over nothing for a creation, and for a replacement over
what the call right before has read. -/
def RootedCall (h : Handler) (d : DesiredSecret) (before : List StoreExchange) :
    StoreExchange → Prop
  | ⟨.create ns secret, _⟩ => ns = h.target.ns ∧ h.prepared d none = .ok secret
  | ⟨.update ns secret, _⟩ =>
    ns = h.target.ns ∧ ∃ earlier stored, h.prepared d (some stored) = .ok secret ∧
      before = earlier ++ [⟨.get h.target.ns d.name, .ok stored⟩]
  | _ => True

/-- Every call is rooted in the calls before it. -/
def Rooted (h : Handler) (d : DesiredSecret) (calls : List StoreExchange) : Prop :=
  ∀ before x after, calls = before ++ x :: after → RootedCall h d before x

variable {h : Handler}

/-- More calls in front do not matter. -/
theorem RootedCall.prepend {before : List StoreExchange} {x : StoreExchange}
    (hx : RootedCall h d before x) (first : List StoreExchange) :
    RootedCall h d (first ++ before) x := by
  obtain ⟨r, reply⟩ := x
  cases r with
  | get ns name => trivial
  | list ns filter => trivial
  | create ns secret => exact hx
  | update ns secret =>
    obtain ⟨hns, earlier, stored, hp, rfl⟩ := hx
    exact ⟨hns, first ++ earlier, stored, hp, (List.append_assoc _ _ _).symm⟩

/-- A place in two lists one after the other is a place in the first one or in the second one. -/
theorem split_append {α : Type} {calls calls' before after : List α} {x : α}
    (h : calls ++ calls' = before ++ x :: after) :
    (∃ rest, calls = before ++ x :: rest ∧ after = rest ++ calls') ∨
      ∃ rest, before = calls ++ rest ∧ calls' = rest ++ x :: after := by
  rcases List.append_eq_append_iff.1 h with ⟨rest, hbefore, hrest⟩ | ⟨rest, hcalls, hrest⟩
  · exact .inr ⟨rest, hbefore, hrest⟩
  · cases rest with
    | nil =>
      -- The place is the first one of the second list.
      rw [List.append_nil] at hcalls
      exact .inr ⟨[], by rw [List.append_nil, hcalls], hrest.symm⟩
    | cons y rest =>
      obtain ⟨rfl, hafter⟩ := List.cons.inj hrest
      exact .inl ⟨rest, hcalls, hafter⟩

theorem Rooted.append {calls calls' : List StoreExchange} (hr : Rooted h d calls)
    (hr' : Rooted h d calls') : Rooted h d (calls ++ calls') := by
  intro before x after hsplit
  rcases split_append hsplit with ⟨rest, hcalls, -⟩ | ⟨rest, rfl, hrest⟩
  · exact hr before x rest hcalls
  · exact (hr' rest x after hrest).prepend calls

theorem CreateCalls.rooted {calls : List StoreExchange} {r : Except SyncFault Secret}
    (hc : CreateCalls h d calls r) : Rooted h d calls := by
  intro before x after hsplit
  cases hc with
  | refused e hp => simp at hsplit
  | sent secret hp reply =>
    obtain ⟨rfl, rfl, -⟩ : before = [] ∧ ⟨.create h.target.ns secret, reply⟩ = x ∧ after = [] := by
      cases before <;> simp_all
    exact ⟨rfl, hp⟩

theorem UpdateCalls.rooted {calls : List StoreExchange} {r : Except SyncFault Secret}
    (hu : UpdateCalls h d calls r) : Rooted h d calls := by
  intro before x after hsplit
  cases before with
  | nil =>
    -- The first call of an update is a read.
    cases hu with
    | unread e => obtain ⟨rfl, -⟩ := List.cons.inj hsplit; trivial
    | refused stored e hp => obtain ⟨rfl, -⟩ := List.cons.inj hsplit; trivial
    | sent stored secret hp reply => obtain ⟨rfl, -⟩ := List.cons.inj hsplit; trivial
  | cons y before =>
    cases hu with
    | unread e => simp at hsplit
    | refused stored e hp => simp at hsplit
    | sent stored secret hp reply =>
      obtain ⟨rfl, hrest⟩ := List.cons.inj hsplit
      obtain ⟨rfl, rfl, -⟩ :
          before = [] ∧ ⟨.update h.target.ns secret, reply⟩ = x ∧ after = [] := by
        cases before <;> simp_all
      exact ⟨rfl, [], stored, hp, rfl⟩

/-- Whatever the store answers, every attempt of a write prepares anew what it sends. -/
theorem WriteCalls.rooted {calls : List StoreExchange} {r : Except SyncFault Secret}
    (hw : WriteCalls h d calls r) : Rooted h d calls := by
  cases hw with
  | unnamed _ _ _ hc => exact hc.rooted
  | updated _ _ _ hu _ => exact hu.rooted
  | recreated _ _ _ _ _ hu hc _ => exact hu.rooted.append hc.rooted
  | reupdated _ _ _ _ _ _ _ hu hc hl => exact hu.rooted.append (hc.rooted.append hl.rooted)

/-- A sync without data makes no call. -/
theorem SyncCalls.eq_nil {recreate : Bool} {e : ProviderError} {calls : List StoreExchange}
    {r : Except SyncError Secret} (hs : SyncCalls h recreate (.error e) calls r) : calls = [] := by
  cases hs with
  | unavailable e => rfl

theorem SyncCalls.rooted {recreate : Bool} {data : SecretData} {calls : List StoreExchange}
    {r : Except SyncError Secret} (hs : SyncCalls h recreate (.ok data) calls r) :
    Rooted h (h.desired recreate data) calls := by
  cases hs with
  | written data calls r hw => exact hw.rooted

/-! ### Every attempt -/

/-- The secrets that a sync sends, whatever the store answers. Without data it sends none. With
data, every secret that it passes to a creation or to a replacement goes to the namespace of the
target, carries everything wanted, and is managed by the owner alone. What is created is nothing but
the wanted secret. What replaces a secret was read by the call right before, and keeps the rest of
it. -/
theorem sync_payload {σ : Type} (server : Server storeInterface σ) (t : DeploymentTarget)
    (htrim : Text.trim t.owner.toString = t.owner.toString)
    (provider : StoreProgram (Except ProviderError SecretData)) (recreate : Bool) (s : σ) :
    let h : Handler := ⟨t, .ofTags⟩
    let fetched := provider.run server s
    let own := (h.write recreate fetched.result).exchanges server fetched.state
    (h.sync provider recreate).exchanges server s = provider.exchanges server s ++ own ∧
    (∀ e, fetched.result = .error e → own = []) ∧
    ∀ data, fetched.result = .ok data →
      let d := h.desired recreate data
      (∀ before ns secret reply after, own = before ++ ⟨.create ns secret, reply⟩ :: after →
        ns = t.ns ∧ Carries t d secret ∧ Starts t d secret) ∧
      (∀ before ns secret reply after, own = before ++ ⟨.update ns secret, reply⟩ :: after →
        ns = t.ns ∧ Carries t d secret ∧ ∃ earlier stored,
          before = earlier ++ [⟨.get t.ns (t.effectiveName recreate), .ok stored⟩] ∧
          Revises d stored secret) := by
  intro h fetched own
  have hcalls : SyncCalls h recreate fetched.result own _ :=
    write_calls server h recreate fetched.result fetched.state
  refine ⟨?_, ?_, ?_⟩
  · unfold Program.exchanges
    rw [steps_sync, List.map_append]
    rfl
  · intro e he
    rw [he] at hcalls
    exact hcalls.eq_nil
  · intro data hdata d
    rw [hdata] at hcalls
    have hrooted : Rooted h d own := hcalls.rooted
    refine ⟨?_, ?_⟩
    · intro before ns secret reply after hsplit
      obtain ⟨hns, hp⟩ := hrooted before _ after hsplit
      exact ⟨hns, carries_of_prepared hp htrim, starts_of_prepared hp⟩
    · intro before ns secret reply after hsplit
      obtain ⟨hns, earlier, stored, hp, hbefore⟩ := hrooted before _ after hsplit
      exact ⟨hns, carries_of_prepared hp htrim, earlier, stored, hbefore,
        revises_of_prepared hp⟩

/-! #### A secret that was tagged by hand -/

/-- A secret of another owner whose references were written by hand, without the label. -/
def handTagged : Secret where
  metadata := {
    name := some "db"
    ns := some "app"
    annotations := some ((SortedMap.singleton referencesAnnotation " x ,, team-b/creds,").insert
      managerAnnotation "team-b/creds") }

/-- A target that wants the other owner to stay the manager. -/
def handTaggedTarget : DeploymentTarget :=
  .inNamespace { name := "db", annotations := .singleton managerAnnotation "team-b/creds" } "app"
    ⟨"team-a", "creds"⟩ ""

/-- A cluster in which the secret disappears right before it is replaced, and is back right before
it is created. -/
def handTaggedCluster : Cluster StoreError where
  shelves := ((Cluster.empty : Cluster StoreError).put handTagged).shelves
  hooks :=
    [{ verb := .update, deletions := [("app", "db")] },
      { verb := .create, writes := [handTagged] }]

/-- The sync takes both fallbacks and sends three secrets. In what it replaces at last, as in all
others, the owner is the manager. -/
theorem sync_payload_handTagged :
    let t := handTaggedTarget
    let own := (write ⟨t, .ofTags⟩ false (.ok .empty)).exchanges Cluster.storeServer
      handTaggedCluster
    Text.trim t.owner.toString = t.owner.toString ∧
    own.map (fun x => (Cluster.callOf x.request).verb) = [.get, .update, .create, .get, .update] ∧
    ∀ before ns secret reply after, own = before ++ ⟨.update ns secret, reply⟩ :: after →
      Ownership.isManagedBy t.owner secret.metadata = .ok true ∧
      Ownership.isManagedBy ⟨"team-b", "creds"⟩ secret.metadata ≠ .ok true := by
  intro t own
  have htrim : Text.trim t.owner.toString = t.owner.toString := by decide +kernel
  refine ⟨htrim, by decide +kernel, ?_⟩
  intro before ns secret reply after hsplit
  obtain ⟨-, -, hall⟩ :=
    sync_payload Cluster.storeServer t htrim (.done (.ok .empty)) false handTaggedCluster
  obtain ⟨-, hcarries, -⟩ := (hall .empty rfl).2 before ns secret reply after hsplit
  exact ⟨hcarries.managed, hcarries.exclusive _ (by decide +kernel)⟩

end Handler

end SecretSync
