import Mathlib.Data.List.Nodup
import SecretSync.Proofs.Binding.Effect
import SecretSync.Proofs.Binding.Reads
import SecretSync.Proofs.Cluster.Names
import SecretSync.Proofs.Cluster.Namespaces

/-!
# `SecretSync.Proofs.Binding.Listing`: what a listing finds

A listing asks the store for the secrets that carry the label of referenced
objects and looks at each of them. `managedOf_ofTags` says that with the
ownership tags the second step never fails and keeps exactly the secrets that
the owner manages, and `accepts_of_isManagedBy` that the first step has lost
none of them: whoever manages an object references it, and then the label is
set. Neither needs the labels and annotations to be well formed.

`list_exact` is the main statement. On a cluster without hooks a listing is
the secrets of the namespace that the owner manages, in the order of their
names and each once (`Cluster.ManagedList`). Two owners have no secret in
common, because an object has one manager, and a secret is in the list as soon
as the sync that wrote it has ended (`managed_of_sync`).
-/

set_option autoImplicit false

namespace SecretSync

namespace Ownership

variable {owner : OwnerKey}

/-! ### Deciding who manages an object -/

/-- Who manages an object depends on its labels and annotations. -/
theorem isManagedBy_congr {m m' : ObjectMeta} (hlabels : m.labels = m'.labels)
    (hannotations : m.annotations = m'.annotations) :
    isManagedBy owner m = isManagedBy owner m' := by
  have htags : Tags.ofMetadata m = Tags.ofMetadata m' := by
    unfold Tags.ofMetadata ObjectMeta.labelMap ObjectMeta.annotationMap
    rw [hlabels, hannotations]
  unfold isManagedBy isReferencedBy
  rw [htags]

/-! ### The filter in front -/

theorem accepts_linkedFilter (m : ObjectMeta) :
    linkedFilter.accepts m = true ↔ m.labelMap.get? linkedLabel = some linkedValue := by
  show ((m.labelMap.get? linkedLabel == some linkedValue) && true) = true ↔ _
  rw [Bool.and_true, beq_iff_eq]

/-- The filter that a listing asks with hides no object that the owner manages. -/
theorem accepts_of_isManagedBy {m : ObjectMeta} (h : isManagedBy owner m = .ok true) :
    linkedFilter.accepts m = true := by
  have hreferenced := ((isManagedBy_iff owner m).1 h).1
  exact (accepts_linkedFilter m).2 ((isReferencedBy_iff owner m).1 hreferenced).2.1

theorem ownerFilter_of_free (hfree : ReferencedSet.delimiter ∉ owner.toString.toList) :
    ownerFilter owner = .ok linkedFilter := by
  unfold ownerFilter
  rw [storedKey_of_free hfree]
  rfl

theorem ownerFilter_of_delimiter (hmem : ReferencedSet.delimiter ∈ owner.toString.toList) :
    ownerFilter owner = .error (.invalidOwnerKey owner.toString) := by
  unfold ownerFilter
  rw [storedKey_of_delimiter hmem]
  rfl

end Ownership

/-! ### Lists of a namespace -/

/-- The list of the secrets of a namespace that an owner manages: they stand in the order of their
names, and every name stands there once. -/
def Cluster.ManagedList {φ : Type} (c : Cluster φ) (ns : String) (owner : OwnerKey)
    (listed : List Secret) : Prop :=
  ∃ names : List String, names.Pairwise (· < ·) ∧ listed.map some = names.map (c.secret? ns) ∧
    ∀ name, name ∈ names ↔
      ∃ s, c.secret? ns name = some s ∧ Ownership.isManagedBy owner s.metadata = .ok true

namespace Cluster

variable {φ : Type} {c : Cluster φ} {ns : String} {owner : OwnerKey} {listed : List Secret}

/-- The managed secrets of a shelf are such a list. -/
theorem managedList_values (c : Cluster φ) (ns : String) (owner : OwnerKey) :
    c.ManagedList ns owner
      ((c.shelf ns).secrets.values.filter fun s => Ownership.manages owner s.metadata) := by
  let kept := (c.shelf ns).secrets.entries.filter fun e => Ownership.manages owner e.2.metadata
  have hmem : ∀ e ∈ kept, c.secret? ns e.1 = some e.2 := by
    intro e he
    exact SortedMap.mem_entries_iff.1 (List.mem_of_mem_filter he)
  refine ⟨kept.map Prod.fst, ?_, ?_, ?_⟩
  · exact List.pairwise_map.2 ((c.shelf ns).secrets.sorted.filter _)
  · unfold SortedMap.values
    rw [List.filter_map, List.map_map, List.map_map]
    refine List.map_congr_left fun e he => ?_
    exact (hmem e he).symm
  · intro name
    constructor
    · intro hname
      obtain ⟨e, he, rfl⟩ := List.mem_map.1 hname
      exact ⟨e.2, hmem e he, (Ownership.manages_iff _ _).1 (List.mem_filter.1 he).2⟩
    · rintro ⟨s, hs, hmanaged⟩
      refine List.mem_map.2 ⟨(name, s), List.mem_filter.2 ⟨SortedMap.mem_entries_iff.2 hs, ?_⟩, rfl⟩
      exact (Ownership.manages_iff _ _).2 hmanaged

/-- What stands in the list is what the owner manages. -/
theorem ManagedList.mem_iff (h : c.ManagedList ns owner listed) (s : Secret) :
    s ∈ listed ↔ Ownership.isManagedBy owner s.metadata = .ok true ∧
      ∃ name, c.secret? ns name = some s := by
  obtain ⟨names, -, hlisted, hnames⟩ := h
  have hmem : s ∈ listed ↔ ∃ name ∈ names, c.secret? ns name = some s := by
    rw [← List.mem_map, ← hlisted, List.mem_map]
    simp
  rw [hmem]
  constructor
  · rintro ⟨name, hname, hs⟩
    obtain ⟨s', hs', hmanaged⟩ := (hnames name).1 hname
    obtain rfl := Option.some.inj (hs.symm.trans hs')
    exact ⟨hmanaged, name, hs⟩
  · rintro ⟨hmanaged, name, hs⟩
    exact ⟨name, (hnames name).2 ⟨s, hs, hmanaged⟩, hs⟩

/-- In a cluster whose secrets stand under their own names no secret is listed twice. -/
theorem ManagedList.nodup (h : c.ManagedList ns owner listed) (hc : c.Named) : listed.Nodup := by
  obtain ⟨names, hsorted, hlisted, hnames⟩ := h
  -- Different names have different secrets, because a secret has one name.
  have hdistinct : (names.map (c.secret? ns)).Pairwise (· ≠ ·) := by
    refine List.pairwise_map.2 (hsorted.imp_of_mem fun {a b} ha hb hlt heq => ?_)
    obtain ⟨s, hs, -⟩ := (hnames a).1 ha
    obtain ⟨s', hs', -⟩ := (hnames b).1 hb
    obtain rfl := Option.some.inj (hs.symm.trans (heq.trans hs'))
    rw [← hc.name_eq hs, ← hc.name_eq hs'] at hlt
    exact String.lt_irrefl _ hlt
  rw [← hlisted] at hdistinct
  exact hdistinct.of_map some fun a b hne heq => hne (congrArg some heq)

end Cluster

/-! ### Listings -/

namespace Handler

open Cluster (storeServer)

variable {t : DeploymentTarget} {c : Cluster StoreError}

/-- With the ownership tags a listing keeps exactly the managed candidates. -/
theorem managedOf_ofTags (hfree : ReferencedSet.delimiter ∉ t.owner.toString.toList)
    (candidates : List Secret) :
    (⟨t, .ofTags⟩ : Handler).managedOf candidates
      = .ok (candidates.filter fun s => Ownership.manages t.owner s.metadata) := by
  induction candidates with
  | nil => rfl
  | cons s rest ih =>
    have hs : Marker.ofTags.isManagedBy t.owner s.metadata
        = .ok (Ownership.manages t.owner s.metadata) := Ownership.isManagedBy_of_free hfree _
    unfold managedOf
    rw [hs, ih, List.filter_cons]
    rfl

/-- The listing of an owner whose key cannot be stored fails before it asks for anything. -/
theorem list_of_delimiter (hmem : ReferencedSet.delimiter ∈ t.owner.toString.toList) :
    (⟨t, .ofTags⟩ : Handler).list = .done (.error
      (failure ⟨t, .ofTags⟩ (.list (.options (.invalidOwnerKey t.owner.toString))))) := by
  have hfilter : Marker.ofTags.managedFilter t.owner = _ :=
    Ownership.ownerFilter_of_delimiter hmem
  rw [list_eq, hfilter]

/-- A listing of any other owner ends with the managed ones of the candidates, if there are
candidates. -/
theorem run_list_of_free {σ : Type} (server : Program.Server storeInterface σ) (state : σ)
    (hfree : ReferencedSet.delimiter ∉ t.owner.toString.toList) :
    ((list ⟨t, .ofTags⟩).run server state).result
      = match (server (.list t.ns Ownership.linkedFilter) state).1 with
        | .error e => .error (failure ⟨t, .ofTags⟩ (.list (.store e)))
        | .ok candidates =>
          .ok (candidates.filter fun s => Ownership.manages t.owner s.metadata) := by
  have hfilter : Marker.ofTags.managedFilter t.owner = _ := Ownership.ownerFilter_of_free hfree
  rw [list_eq, hfilter]
  simp only [Program.run_request, Program.run_reporting, Program.run_done]
  generalize (server (.list t.ns Ownership.linkedFilter) state).1 = reply
  cases reply with
  | error e => rfl
  | ok candidates =>
    simp only [listingAnswer, managedOf_ofTags hfree]
    rfl

/-- No listing fails because it is unclear who owns a secret, whatever the store answers. -/
theorem result_list_ne_ownership {σ : Type} (server : Program.Server storeInterface σ) (state : σ)
    (secret : String) (e : MarkerError) :
    ((list ⟨t, .ofTags⟩).run server state).result
      ≠ .error (failure ⟨t, .ofTags⟩ (.list (.ownership secret e))) := by
  by_cases hmem : ReferencedSet.delimiter ∈ t.owner.toString.toList
  · rw [list_of_delimiter hmem]
    intro h
    cases h
  · rw [run_list_of_free server state hmem]
    intro h
    split at h <;> cases h

/-- On a cluster without hooks a listing succeeds, with the managed secrets of the namespace. -/
theorem run_list (hc : c.hooks = []) (hfree : ReferencedSet.delimiter ∉ t.owner.toString.toList) :
    ∃ listed, ((list ⟨t, .ofTags⟩).run storeServer c).result = .ok listed ∧
      c.ManagedList t.ns t.owner listed := by
  refine ⟨_, ?_, Cluster.managedList_values c t.ns t.owner⟩
  rw [run_list_of_free storeServer c hfree, Cluster.storeServer_of_unhooked hc]
  show Except.ok (((c.shelf t.ns).secrets.values.filter fun s =>
    Ownership.linkedFilter.accepts s.metadata).filter _) = _
  -- The filter in front of the other one leaves nothing out.
  rw [List.filter_filter]
  refine congrArg Except.ok (List.filter_congr fun s _ => ?_)
  rw [Bool.and_eq_left_iff_imp]
  exact fun hs => Ownership.accepts_of_isManagedBy ((Ownership.manages_iff _ _).1 hs)

/-! ### After a sync -/

/-- The last call of a write that ended well sent a prepared secret. -/
theorem WriteCalls.getLast?_of_ok {h : Handler} {d : DesiredSecret} {calls : List StoreExchange}
    {s : Secret} (hw : WriteCalls h d calls (.ok s)) :
    ∃ stored secret, h.prepared d stored = .ok secret ∧ ∃ x ∈ calls.getLast?,
      x = ⟨.create h.target.ns secret, .ok s⟩ ∨ x = ⟨.update h.target.ns secret, .ok s⟩ := by
  rcases hw.of_ok with ⟨earlier, secret, hp, rfl⟩ | ⟨-, earlier, stored, secret, hp, rfl⟩
  · exact ⟨none, secret, hp, _, List.getLast?_concat, .inl rfl⟩
  · refine ⟨some stored, secret, hp, _, ?_, .inr rfl⟩
    simp

/-- A secret with the tags and the data of the one that was sent. -/
structure Delivers (sent s : Secret) : Prop where
  labels : s.metadata.labels = sent.metadata.labels
  annotations : s.metadata.annotations = sent.metadata.annotations
  data : s.data = sent.data

/-- A call that was answered with a written secret has stored what was sent. -/
theorem stored_of_answer {x : Step storeInterface (Cluster StoreError)} {ns : String}
    {secret s : Secret} (hanswer : storeServer x.request x.before = (x.reply, x.after))
    (hx : x.toExchange = ⟨.create ns secret, .ok s⟩ ∨ x.toExchange = ⟨.update ns secret, .ok s⟩) :
    x.after.secret? ns s.name = some s ∧ Delivers secret s := by
  obtain ⟨exchange, before, after⟩ := x
  rcases hx with hx | hx
  · obtain rfl : exchange = _ := hx
    have hanswer : storeServer (.create ns secret) before = (.ok s, after) := hanswer
    obtain ⟨rfl, -, hstored, -⟩ :=
      Cluster.perform_create_ok (Cluster.perform_of_written hanswer rfl)
    exact ⟨hstored, rfl, rfl, rfl⟩
  · obtain rfl : exchange = _ := hx
    have hanswer : storeServer (.update ns secret) before = (.ok s, after) := hanswer
    obtain ⟨rfl, -, hstored, -⟩ :=
      Cluster.perform_update_ok (Cluster.perform_of_written hanswer rfl)
    exact ⟨hstored, rfl, rfl, rfl⟩

/-- The secret that a sync answers is in the cluster, and it is what was prepared for the data. -/
theorem sent_of_sync {provider : StoreProgram (Except ProviderError SecretData)}
    {recreate : Bool} {s : Secret}
    (h : ((sync ⟨t, .ofTags⟩ provider recreate).run storeServer c).result = .ok s) :
    ((sync ⟨t, .ofTags⟩ provider recreate).run storeServer c).state.secret? t.ns s.name = some s ∧
      ∃ data stored sent, (provider.run storeServer c).result = .ok data ∧
        (⟨t, .ofTags⟩ : Handler).prepared (desired ⟨t, .ofTags⟩ recreate data) stored = .ok sent ∧
        Delivers sent s := by
  rw [run_sync] at h ⊢
  dsimp only at h ⊢
  generalize provider.run storeServer c = fetched at h ⊢
  have hcalls := write_calls storeServer ⟨t, .ofTags⟩ recreate fetched.result fetched.state
  rw [h] at hcalls
  obtain ⟨data, hdata, hw⟩ := hcalls.of_ok
  obtain ⟨stored, sent, hp, last, hlast, hkind⟩ := hw.getLast?_of_ok
  -- The write ended in the state after its last call.
  rw [Program.exchanges, List.getLast?_map] at hlast
  obtain ⟨x, hx, rfl⟩ := Option.map_eq_some_iff.1 hlast
  rw [Program.run_state, hx]
  obtain ⟨hstored, hdelivers⟩ :=
    stored_of_answer (Program.server_of_mem_steps _ (List.mem_of_getLast? hx)) hkind
  exact ⟨hstored, data, stored, sent, hdata, hp, hdelivers⟩

/-- The secret that a sync answers is in the cluster, and its owner manages it if the key of the
owner reads back as it is written. -/
theorem managed_of_sync {provider : StoreProgram (Except ProviderError SecretData)}
    {recreate : Bool} {s : Secret} (htrim : Text.trim t.owner.toString = t.owner.toString)
    (h : ((sync ⟨t, .ofTags⟩ provider recreate).run storeServer c).result = .ok s) :
    ((sync ⟨t, .ofTags⟩ provider recreate).run storeServer c).state.secret? t.ns s.name = some s ∧
      Ownership.isManagedBy t.owner s.metadata = .ok true := by
  obtain ⟨hstored, data, stored, sent, -, hp, hdelivers⟩ := sent_of_sync h
  refine ⟨hstored, ?_⟩
  rw [Ownership.isManagedBy_congr hdelivers.labels hdelivers.annotations]
  exact isManagedBy_of_prepared hp htrim

/-- Right after a sync its secret is listed, and listed once if all secrets stand under their own
names. -/
theorem mem_list_of_sync (hc : c.hooks = []) {provider : StoreProgram (Except ProviderError SecretData)}
    {recreate : Bool} {s : Secret} (hfree : ReferencedSet.delimiter ∉ t.owner.toString.toList)
    (htrim : Text.trim t.owner.toString = t.owner.toString)
    (h : ((sync ⟨t, .ofTags⟩ provider recreate).run storeServer c).result = .ok s) :
    ∃ listed, ((list ⟨t, .ofTags⟩).run storeServer
        ((sync ⟨t, .ofTags⟩ provider recreate).run storeServer c).state).result = .ok listed ∧
      s ∈ listed ∧ (c.Named → listed.count s = 1) := by
  obtain ⟨hstored, hmanaged⟩ := managed_of_sync htrim h
  obtain ⟨listed, hlist, hexact⟩ := run_list (Cluster.unhooked_run hc _) hfree
  have hmem : s ∈ listed := (hexact.mem_iff s).2 ⟨hmanaged, s.name, hstored⟩
  refine ⟨listed, hlist, hmem, fun hnamed => ?_⟩
  exact List.count_eq_one_of_mem (hexact.nodup (Cluster.named_run hnamed _)) hmem

/-! ### The whole statement -/

/-- What a listing finds on a cluster without hooks, for any target. If the key of the owner can be
stored, it succeeds with exactly the secrets of the namespace that the owner manages, each once and
in the order of their names; it has no secret in common with the listing of an owner with another
key; and right after a sync of the same target it has the secret of that sync, once. If the key
cannot be stored, the listing fails without a request. It never fails because it is unclear who owns
a secret, on this or any other store. -/
theorem list_exact {c : Cluster StoreError} (hc : c.hooks = []) (t : DeploymentTarget) :
    let h : Handler := ⟨t, .ofTags⟩
    (ReferencedSet.delimiter ∉ t.owner.toString.toList →
      ∃ listed, (h.list.run storeServer c).result = .ok listed ∧
        c.ManagedList t.ns t.owner listed ∧
        (∀ (t' : DeploymentTarget) (listed' : List Secret),
          t'.owner.toString ≠ t.owner.toString →
          ((list ⟨t', .ofTags⟩).run storeServer c).result = .ok listed' →
          listed.Disjoint listed') ∧
        (Text.trim t.owner.toString = t.owner.toString →
          ∀ (provider : StoreProgram (Except ProviderError SecretData)) (recreate : Bool)
            (s : Secret),
          let synced := (h.sync provider recreate).run storeServer c
          synced.result = .ok s →
          ∃ after, (h.list.run storeServer synced.state).result = .ok after ∧
            s ∈ after ∧ (c.Named → after.count s = 1))) ∧
    (ReferencedSet.delimiter ∈ t.owner.toString.toList →
      h.list = .done (.error
        (h.failure (.list (.options (.invalidOwnerKey t.owner.toString)))))) ∧
    (∀ {σ : Type} (server : Program.Server storeInterface σ) (state : σ) (secret : String)
      (e : MarkerError),
      (h.list.run server state).result ≠ .error (h.failure (.list (.ownership secret e)))) := by
  intro h
  refine ⟨fun hfree => ?_, list_of_delimiter, result_list_ne_ownership⟩
  obtain ⟨listed, hlist, hexact⟩ := run_list hc hfree
  refine ⟨listed, hlist, hexact, ?_, ?_⟩
  · intro t' listed' hne hlist' s hs hs'
    -- The other listing succeeded, so its owner can be stored, and it is exact as well.
    by_cases hfree' : ReferencedSet.delimiter ∈ t'.owner.toString.toList
    · rw [list_of_delimiter hfree'] at hlist'
      cases hlist'
    · obtain ⟨exact', hexact', hmanaged'⟩ := run_list hc hfree'
      obtain rfl := Except.ok.inj (hlist'.symm.trans hexact')
      exact hne (Ownership.toString_eq_of_isManagedBy ((hmanaged'.mem_iff s).1 hs').1
        ((hexact.mem_iff s).1 hs).1)
  · intro htrim provider recreate s synced hsynced
    exact mem_list_of_sync hc hfree htrim hsynced

/-- A secret with the given ownership tags. -/
def taggedSecret (name label references manager : String) : Secret where
  metadata := {
    name := some name
    ns := some "app"
    labels := some (.singleton linkedLabel label)
    annotations := some
      ((SortedMap.singleton referencesAnnotation references).insert managerAnnotation manager)
  }

/-- Secrets whose tags were edited by hand: a managed one in a list with gaps, one without a proper
label, and one whose manager is not in its list. -/
def editedByHand : Cluster StoreError :=
  ((Cluster.empty.put (taggedSecret "web" "true" ", ,team-a/creds,not a key" "team-a/creds")).put
    (taggedSecret "db" "yes" "team-a/creds" "team-a/creds")).put
    (taggedSecret "api" "true" "team-b/creds" "team-a/creds")

/-- One of them counts as managed, and only that one is listed. -/
theorem list_exact_editedByHand :
    let t : DeploymentTarget := .inNamespace { name := "db" } "app" ⟨"team-a", "creds"⟩ ""
    ∃ listed, ((list ⟨t, .ofTags⟩).run storeServer editedByHand).result = .ok listed ∧
      editedByHand.ManagedList "app" ⟨"team-a", "creds"⟩ listed ∧
      listed.map Secret.name = ["web"] := by
  intro t
  obtain ⟨hfree, -, -⟩ := list_exact (c := editedByHand) rfl t
  obtain ⟨listed, hlist, hexact, -, -⟩ := hfree (by decide)
  have hnames : ((list ⟨t, .ofTags⟩).run storeServer editedByHand).result.toOption.map
      (·.map Secret.name) = some ["web"] := by decide +kernel
  rw [hlist] at hnames
  exact ⟨listed, hlist, hexact, Option.some.inj hnames⟩

end Handler

end SecretSync
