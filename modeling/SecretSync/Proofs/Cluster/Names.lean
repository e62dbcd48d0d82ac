import SecretSync.Proofs.Cluster.Versions
import SecretSync.Proofs.Program.Steps

/-!
# `SecretSync.Proofs.Cluster.Names`: secrets under their own names

`Cluster.Named` says that every secret of a cluster stands under the name in
its metadata. The empty cluster is named, and nothing that can happen to a
cluster changes that: not what is put into it or deleted from outside
(`named_put`, `named_delete`), not the requests and what other writers do
before them (`named_storeServer`).

Unlike `Versioned` it says nothing about versions, so it also holds when
secrets with versions of their own are put into a cluster.
-/

set_option autoImplicit false

namespace SecretSync

/-! ### Shelves -/

namespace Shelf

/-- Every secret is on the shelf under its own name. -/
def Named (s : Shelf) : Prop :=
  ∀ name secret, s.secrets.get? name = some secret → secret.name = name

variable {s : Shelf}

theorem named_empty : empty.Named := fun _ _ h => nomatch h

/-- A shelf with one more secret under its own name. -/
theorem Named.insert (hs : s.Named) (secret : Secret) (version generated : Nat) :
    Named ⟨version, generated, s.secrets.insert secret.name secret⟩ := by
  intro n x hget
  rw [SortedMap.get?_insert] at hget
  split at hget
  · rename_i hn
    rw [hn, ← Option.some.inj hget]
  · exact hs n x hget

theorem Named.store (hs : s.Named) (secret : Secret) : (s.store secret.name secret).Named :=
  hs.insert (s.stamped secret) _ _

theorem Named.put (hs : s.Named) (secret : Secret) : (s.put secret).Named := by
  unfold Shelf.put
  split
  · exact hs.store secret
  · exact hs.insert secret _ _

theorem Named.delete (hs : s.Named) (name : String) : (s.delete name).Named := by
  intro n x hget
  rw [get?_delete] at hget
  split at hget
  · cases hget
  · exact hs n x hget

theorem Named.countName (hs : s.Named) (secret : Secret) : (s.countName secret).Named := by
  unfold Shelf.Named
  rw [secrets_countName]
  exact hs

theorem Named.create (hs : s.Named) (ns : String) (secret : Secret) :
    (s.create ns secret).2.Named := by
  rw [create_eq]
  split
  · exact hs.countName secret
  · exact (hs.countName secret).store (s.named ns secret)

theorem Named.update (hs : s.Named) (secret : Secret) :
    (s.update secret.name secret).2.Named := by
  simp only [Shelf.update]
  split
  · exact hs
  · split
    · exact hs.store secret
    · exact hs

end Shelf

/-! ### Clusters -/

namespace Cluster

variable {φ : Type} {c : Cluster φ}

/-- Every secret is in the cluster under its own name. -/
def Named (c : Cluster φ) : Prop := ∀ ns, (c.shelf ns).Named

theorem named_empty : (empty : Cluster φ).Named := fun _ => Shelf.named_empty

theorem Named.name_eq (hc : c.Named) {ns name : String} {secret : Secret}
    (h : c.secret? ns name = some secret) : secret.name = name := hc ns name secret h

/-- Where all versions come from the counters, all names are their own. -/
theorem Regular.named (hc : c.Regular) : c.Named :=
  fun ns name secret h => (hc.versioned ns name secret h).1

theorem named_setShelf (hc : c.Named) {ns : String} {s : Shelf} (hs : s.Named) :
    (c.setShelf ns s).Named := by
  intro ns'
  rw [shelf_setShelf]
  split
  · exact hs
  · exact hc ns'

theorem named_put (hc : c.Named) (secret : Secret) : (c.put secret).Named :=
  named_setShelf hc ((hc _).put _)

theorem named_delete (hc : c.Named) (ns name : String) : (c.delete ns name).Named := by
  unfold delete
  split
  · rename_i s hs
    have hshelf : c.shelf ns = s := by simp only [shelf, hs, Option.getD_some]
    exact named_setShelf hc ((hshelf ▸ hc ns).delete name)
  · exact hc

/-- A sequence of changes keeps the names if each of them does. -/
theorem named_foldl {β : Type} {f : Cluster φ → β → Cluster φ}
    (hf : ∀ (c : Cluster φ) (b : β), c.Named → (f c b).Named) (l : List β) (hc : c.Named) :
    (l.foldl f c).Named := by
  induction l generalizing c with
  | nil => exact hc
  | cons b rest ih => exact ih (hf c b hc)

theorem named_interfere (hc : c.Named) (hook : Hook φ) : (c.interfere hook).Named := by
  have hdeleted : (hook.deletions.foldl (fun c d => c.delete d.1 d.2) c).Named :=
    named_foldl (fun _ d h => named_delete h d.1 d.2) _ hc
  exact named_foldl (fun _ secret h => named_put h secret) _ hdeleted

theorem named_enter (hc : c.Named) (call : Call) : (c.enter call).2.Named := by
  simp only [enter]
  split
  · exact hc
  · rename_i hook rest hfound
    have hrest : Named { c with history := call :: c.history, hooks := rest } := hc
    exact named_interfere hrest hook

theorem named_perform (hc : c.Named) (r : StoreRequest) : (c.perform r).2.Named := by
  cases r with
  | get ns name => exact hc
  | list ns filter => exact hc
  | create ns secret => exact named_setShelf hc ((hc ns).create ns secret)
  | update ns secret =>
    have hupdated := (hc ns).update secret
    simp only [perform]
    split
    · rename_i stored s hok
      rw [hok] at hupdated
      exact named_setShelf hc hupdated
    · exact hc

/-- Answering a request keeps the names, also with what others do before it. -/
theorem named_storeServer {c : Cluster StoreError} (hc : c.Named) (r : StoreRequest) :
    (storeServer r c).2.Named := by
  have hentered := named_enter hc (callOf r)
  rcases storeServer_cases c r with ⟨e, h⟩ | h <;> rw [h]
  · exact hentered
  · exact named_perform hentered r

/-- A run keeps the names. -/
theorem named_run {α : Type} {c : Cluster StoreError} (hc : c.Named) (p : StoreProgram α) :
    (p.run storeServer c).state.Named := by
  have hkeep : ∀ (r : StoreRequest) (c : Cluster StoreError), c.Named →
      (storeServer r c).2.Named := by
    intro r c hc
    exact named_storeServer hc r
  exact Program.invariant_run hkeep p hc

end Cluster

end SecretSync
