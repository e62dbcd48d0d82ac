import SecretSync.Proofs.Cluster.Versions

/-!
# `SecretSync.Proofs.Cluster.Failures`: the failures of hooks

The same cluster serves as a store and behind an API server. What differs is
what a hook makes a call fail with. `mapFailures` is the cluster with all
these failures changed, and nothing else: whatever happens to the one cluster
happens to the other (`enter_mapFailures`).

`FailsOnlyWith` says which failures there are. Calls only use hooks up, so it
is kept (`FailsOnlyWith.storeServer`).
-/

set_option autoImplicit false

namespace SecretSync

/-- The hook with its failure changed. -/
def Hook.mapFailure {φ ψ : Type} (f : φ → ψ) (h : Hook φ) : Hook ψ where
  verb := h.verb
  ns := h.ns
  name := h.name
  deletions := h.deletions
  writes := h.writes
  failure := h.failure.map f

/-- The first element of a list whose elements were changed. -/
theorem takeFirst_map {α β : Type} (f : α → β) {p : α → Bool} {q : β → Bool}
    (h : ∀ a, q (f a) = p a) (l : List α) :
    takeFirst q (l.map f) = (takeFirst p l).map fun found => (f found.1, found.2.map f) := by
  induction l with
  | nil => rfl
  | cons a rest ih =>
    rw [List.map_cons, takeFirst, takeFirst, h, ih]
    split
    · rfl
    · rw [Option.map_map, Option.map_map]
      rfl

namespace Cluster

variable {φ ψ : Type}

/-- The cluster with the failures of its hooks changed. -/
def mapFailures (f : φ → ψ) (c : Cluster φ) : Cluster ψ where
  shelves := c.shelves
  hooks := c.hooks.map (Hook.mapFailure f)
  history := c.history

variable (f : φ → ψ)

/-! ### What happens to a cluster -/

theorem put_mapFailures (c : Cluster φ) (secret : Secret) :
    (c.mapFailures f).put secret = (c.put secret).mapFailures f := rfl

theorem delete_mapFailures (c : Cluster φ) (ns name : String) :
    (c.mapFailures f).delete ns name = (c.delete ns name).mapFailures f := by
  have hshelves : (c.mapFailures f).shelves = c.shelves := rfl
  unfold delete
  rw [hshelves]
  cases c.shelves.get? ns <;> rfl

/-- A sequence of changes that each do the same to both clusters. -/
theorem foldl_mapFailures {β : Type} {change : Cluster φ → β → Cluster φ}
    {change' : Cluster ψ → β → Cluster ψ}
    (h : ∀ c b, change' (c.mapFailures f) b = (change c b).mapFailures f) (l : List β)
    (c : Cluster φ) : l.foldl change' (c.mapFailures f) = (l.foldl change c).mapFailures f := by
  induction l generalizing c with
  | nil => rfl
  | cons b rest ih => rw [List.foldl_cons, List.foldl_cons, h, ih]

theorem interfere_mapFailures (c : Cluster φ) (hook : Hook φ) :
    (c.mapFailures f).interfere (hook.mapFailure f) = (c.interfere hook).mapFailures f := by
  show hook.writes.foldl put
    (hook.deletions.foldl (fun c d => c.delete d.1 d.2) (c.mapFailures f)) = _
  rw [foldl_mapFailures f (fun c d => delete_mapFailures f c d.1 d.2),
    foldl_mapFailures f (put_mapFailures f)]
  rfl

/-- A call fires the same hook. -/
theorem enter_mapFailures (c : Cluster φ) (call : Call) :
    (c.mapFailures f).enter call
      = ((c.enter call).1.map f, (c.enter call).2.mapFailures f) := by
  have hfirst : takeFirst (·.waitsFor call) (c.mapFailures f).hooks
      = (takeFirst (·.waitsFor call) c.hooks).map fun found =>
          (found.1.mapFailure f, found.2.map (Hook.mapFailure f)) :=
    takeFirst_map (Hook.mapFailure f) (fun _ => rfl) c.hooks
  unfold enter
  dsimp only
  rw [hfirst]
  cases takeFirst (·.waitsFor call) c.hooks with
  | none => rfl
  | some found =>
    refine Prod.ext rfl ?_
    exact interfere_mapFailures f { c with history := call :: c.history, hooks := found.2 } found.1

/-! ### Which failures there are -/

/-- All failures of the hooks have a property. -/
def FailsOnlyWith (P : φ → Prop) (c : Cluster φ) : Prop :=
  ∀ hook ∈ c.hooks, ∀ e ∈ hook.failure, P e

theorem hooks_put (c : Cluster φ) (secret : Secret) : (c.put secret).hooks = c.hooks := rfl

theorem hooks_delete (c : Cluster φ) (ns name : String) : (c.delete ns name).hooks = c.hooks := by
  unfold delete
  split <;> rfl

theorem hooks_foldl {β : Type} {change : Cluster φ → β → Cluster φ}
    (h : ∀ c b, (change c b).hooks = c.hooks) (l : List β) (c : Cluster φ) :
    (l.foldl change c).hooks = c.hooks := by
  induction l generalizing c with
  | nil => rfl
  | cons b rest ih => rw [List.foldl_cons, ih, h]

theorem hooks_interfere (c : Cluster φ) (hook : Hook φ) : (c.interfere hook).hooks = c.hooks := by
  have hdeleted : (hook.deletions.foldl (fun c d => c.delete d.1 d.2) c).hooks = c.hooks :=
    hooks_foldl (fun c d => hooks_delete c d.1 d.2) hook.deletions c
  exact (hooks_foldl hooks_put hook.writes _).trans hdeleted

/-- A call fails with one of the failures, and leaves no others. -/
theorem FailsOnlyWith.enter {P : φ → Prop} {c : Cluster φ} (hc : c.FailsOnlyWith P) (call : Call) :
    (∀ e ∈ (c.enter call).1, P e) ∧ (c.enter call).2.FailsOnlyWith P := by
  unfold Cluster.enter
  dsimp only
  split
  · exact ⟨nofun, hc⟩
  · rename_i hook rest hfound
    obtain ⟨hmem, hrest⟩ := takeFirst_spec hfound
    refine ⟨hc hook hmem, ?_⟩
    unfold FailsOnlyWith
    rw [hooks_interfere]
    exact fun other hother => hc other (hrest other hother)

theorem FailsOnlyWith.storeServer {P : StoreError → Prop} {c : Cluster StoreError}
    (hc : c.FailsOnlyWith P) (r : StoreRequest) : (storeServer r c).2.FailsOnlyWith P := by
  unfold FailsOnlyWith
  rw [(advances_storeServer c r).hooks]
  exact (hc.enter _).2

end Cluster

end SecretSync
