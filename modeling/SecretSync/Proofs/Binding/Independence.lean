import SecretSync.Proofs.Binding.Attempts
import SecretSync.Proofs.Cluster.Namespaces

/-!
# `SecretSync.Proofs.Binding.Independence`: targets in different namespaces

A sync whose data are in memory makes requests in the namespace of its target
only, whatever it is answered (`asks_sync`). On a cluster without hooks that
is enough for syncs in different namespaces to be independent.

`independent_syncs` is the main statement. It holds of every interleaving of
the requests: every sync ends as it would by itself, and the cluster ends with
the secrets and counters that the syncs leave when they run one after the
other, in any order.
-/

set_option autoImplicit false

namespace SecretSync

open Program (Asks Interleaved KeepTo)

namespace Handler

/-! ### Where a sync asks -/

/-- Whether a request is about a namespace. -/
def Within (ns : String) (r : StoreRequest) : Prop := (Cluster.callOf r).ns = ns

variable (h : Handler) (d : DesiredSecret)

theorem asks_create : (h.create d).Asks (Within h.target.ns) := by
  cases hp : h.prepared d none with
  | error e =>
    rw [create_of_refused hp]
    exact .done _
  | ok secret =>
    rw [create_of_prepared hp]
    exact .request _ _ rfl fun reply => (Asks.done _).reporting _

theorem asks_replace (stored : Secret) : (h.replace d stored).Asks (Within h.target.ns) := by
  cases hp : h.prepared d (some stored) with
  | error e =>
    rw [replace_of_refused hp]
    exact .done _
  | ok secret =>
    rw [replace_of_prepared hp]
    refine Asks.reporting ?_ _
    exact .request _ _ rfl fun reply => (Asks.done _).reporting _

theorem asks_update : (h.update d).Asks (Within h.target.ns) := by
  rw [update_eq]
  refine .request _ _ rfl fun reply => ?_
  cases reply with
  | error e => exact .done _
  | ok stored => exact h.asks_replace d stored

theorem asks_afterCreation (created : Except SyncFault Secret) :
    (h.afterCreation d created).Asks (Within h.target.ns) := by
  unfold afterCreation
  split
  · exact (h.asks_update d).reporting _
  · exact .done _

theorem asks_afterUpdate (updated : Except SyncFault Secret) :
    (h.afterUpdate d updated).Asks (Within h.target.ns) := by
  unfold afterUpdate
  split
  · exact ((h.asks_create d).bind (h.asks_afterCreation d)).reporting _
  · exact .done _

theorem asks_materialize : (h.materialize d).Asks (Within h.target.ns) := by
  rw [materialize_eq]
  split
  · exact h.asks_create d
  · exact (h.asks_update d).bind (h.asks_afterUpdate d)

/-- A sync asks in the namespace of its target if its data provider does. -/
theorem asks_sync {provider : StoreProgram (Except ProviderError SecretData)}
    (hprovider : provider.Asks (Within h.target.ns)) (recreate : Bool) :
    (h.sync provider recreate).Asks (Within h.target.ns) := by
  rw [sync_eq]
  refine hprovider.bind fun data => Asks.bind ?_ fun result => (Asks.done _).reporting _
  cases data with
  | error e => exact .done _
  | ok data => exact (h.asks_materialize _).bind fun written => .done _

end Handler

/-! ### Syncs side by side -/

/-- A sync whose data are in memory. -/
structure StaticSync where
  handler : Handler
  data : StaticData
  key : OwnerKey
  recreate : Bool

namespace StaticSync

/-- The namespace of the target. -/
def ns (x : StaticSync) : String := x.handler.target.ns

/-- The sync as a program. -/
def program (x : StaticSync) : StoreProgram (Except SyncError Secret) :=
  x.handler.sync (x.data.provider x.key) x.recreate

/-- The sync by itself. -/
def alone (x : StaticSync) (c : Cluster StoreError) :
    Program.Outcome (Cluster StoreError) (Except SyncError Secret) :=
  x.program.run Cluster.storeServer c

theorem asks_program (x : StaticSync) :
    x.program.Asks fun r => (Cluster.callOf r).ns = x.ns :=
  x.handler.asks_sync (.done _) x.recreate

theorem keepTo (syncs : List StaticSync) :
    KeepTo (fun r => (Cluster.callOf r).ns) (syncs.map ns) (syncs.map program) := by
  intro i p hi
  rw [List.getElem?_map, Option.map_eq_some_iff] at hi
  obtain ⟨x, hx, rfl⟩ := hi
  exact ⟨x.ns, by rw [List.getElem?_map, hx]; rfl, x.asks_program⟩

variable {c c' : Cluster StoreError} {syncs : List StaticSync}
  {log : List (Nat × Step storeInterface (Cluster StoreError))}
  {results : List (Except SyncError Secret)}

/-- Side by side, every sync ends as it does by itself. -/
theorem results_of_interleaved (hc : c.hooks = []) (hns : (syncs.map ns).Nodup)
    (h : Interleaved Cluster.storeServer (syncs.map program) c log results c') :
    results = syncs.map fun x => (x.alone c).result := by
  obtain ⟨hown, -⟩ := h.independent Cluster.local_storeServer hns hc (keepTo syncs)
  refine List.ext_getElem? fun i => ?_
  rw [List.getElem?_map]
  cases hi : syncs[i]? with
  | none =>
    rw [Option.map_none, List.getElem?_eq_none_iff, h.length_eq, List.length_map]
    exact List.getElem?_eq_none_iff.1 hi
  | some x =>
    exact (hown i x.program x.ns (by rw [List.getElem?_map, hi]; rfl)
      (by rw [List.getElem?_map, hi]; rfl)).1

/-- Side by side, every sync leaves in its namespace what it leaves there by itself. -/
theorem shelf_of_interleaved (hc : c.hooks = []) (hns : (syncs.map ns).Nodup)
    (h : Interleaved Cluster.storeServer (syncs.map program) c log results c') {x : StaticSync}
    (hx : x ∈ syncs) : c'.shelves.get? x.ns = (x.alone c).state.shelves.get? x.ns := by
  obtain ⟨hown, -⟩ := h.independent Cluster.local_storeServer hns hc (keepTo syncs)
  obtain ⟨i, hi⟩ := List.mem_iff_getElem?.1 hx
  exact (hown i x.program x.ns (by rw [List.getElem?_map, hi]; rfl)
    (by rw [List.getElem?_map, hi]; rfl)).2

/-- Side by side, syncs leave all namespaces alone that none of them is for. -/
theorem shelf_of_other (hc : c.hooks = []) (hns : (syncs.map ns).Nodup)
    (h : Interleaved Cluster.storeServer (syncs.map program) c log results c') {other : String}
    (hother : other ∉ syncs.map ns) : c'.shelves.get? other = c.shelves.get? other :=
  (h.independent Cluster.local_storeServer hns hc (keepTo syncs)).2 other hother

end StaticSync

open StaticSync in
/-- Syncs for targets in different namespaces do not interfere: however their requests are
interleaved, every sync ends as it does by itself, and the results and the secrets and counters of
the cluster are those of the syncs one after the other, in any order. -/
theorem independent_syncs {c : Cluster StoreError} (hc : c.hooks = []) (syncs : List StaticSync)
    (hns : (syncs.map ns).Nodup) {log : List (Nat × Step storeInterface (Cluster StoreError))}
    {results : List (Except SyncError Secret)} {c' : Cluster StoreError}
    (h : Interleaved Cluster.storeServer (syncs.map program) c log results c') :
    results = syncs.map (fun x => (x.alone c).result) ∧
      ∀ order : List StaticSync, order.Perm syncs →
        let serial := (Program.sequence (order.map program)).run Cluster.storeServer c
        serial.result = order.map (fun x => (x.alone c).result) ∧
          serial.state.shelves = c'.shelves := by
  refine ⟨results_of_interleaved hc hns h, ?_⟩
  intro order hperm serial
  -- One after the other is one of the interleavings.
  obtain ⟨log', hserial, -⟩ : ∃ log', Interleaved Cluster.storeServer (order.map program) c log'
      serial.result serial.state ∧ _ :=
    Program.interleaved_sequence [] (order.map program) c
  have hns' : (order.map ns).Nodup := (hperm.map ns).nodup_iff.2 hns
  refine ⟨results_of_interleaved hc hns' hserial, SortedMap.ext_get? fun other => ?_⟩
  by_cases hother : other ∈ syncs.map ns
  · obtain ⟨x, hx, rfl⟩ := List.mem_map.1 hother
    rw [shelf_of_interleaved hc hns h hx]
    exact shelf_of_interleaved hc hns' hserial (hperm.mem_iff.2 hx)
  · rw [shelf_of_other hc hns h hother]
    exact shelf_of_other hc hns' hserial fun hmem => hother ((hperm.map ns).mem_iff.1 hmem)

/-- A sync into the secret `db` of a namespace, with data. -/
def neighbour (ns : String) (owner : OwnerKey) : StaticSync where
  handler := ⟨.inNamespace { name := "db" } ns owner "", .ofTags⟩
  data := .insert .empty owner .empty
  key := owner
  recreate := false

/-- Two of them in different namespaces. -/
def neighbours : List StaticSync :=
  [neighbour "app" ⟨"team-a", "creds"⟩, neighbour "web" ⟨"team-b", "creds"⟩]

/-- The second sync runs while the first one is about to create its secret. Both succeed, and the
cluster is as if the second one had come first. -/
theorem independent_syncs_neighbours :
    ∃ log results c', Interleaved Cluster.storeServer (neighbours.map StaticSync.program)
        Cluster.empty log results c' ∧
      results.map Except.isOk = [true, true] ∧
      ((Program.sequence (neighbours.reverse.map StaticSync.program)).run Cluster.storeServer
        Cluster.empty).state.shelves = c'.shelves := by
  obtain ⟨log, hlog, -⟩ := Program.interleaved_weave Cluster.storeServer [0, 1, 1, 0]
    (neighbours.map StaticSync.program) Cluster.empty
  obtain ⟨hresults, hserial⟩ := independent_syncs rfl neighbours (by decide) hlog
  refine ⟨log, _, _, hlog, ?_, (hserial _ (List.reverse_perm neighbours)).2⟩
  rw [hresults]
  decide +kernel

end SecretSync
