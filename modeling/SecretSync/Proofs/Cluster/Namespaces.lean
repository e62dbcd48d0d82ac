import SecretSync.Proofs.Cluster.Requests
import SecretSync.Proofs.Program.Independence

/-!
# `SecretSync.Proofs.Cluster.Namespaces`: clusters without hooks and their namespaces

A request to a cluster works on the shelf of one namespace. `work` is what it
does there, and `perform_eq` says that this is all it does: the reply depends
on that shelf, counters included, and no other shelf is touched.

So a cluster without hooks is a server whose places are the namespaces
(`local_storeServer`). With hooks it is not, because a hook that waits for a
call in one namespace may write into another one.

Nobody acts between two requests to such a cluster. What is stored is read
(`get_of_stored`), what was read can be replaced (`update_of_stored`), and a
program that writes nothing leaves all secrets as they are (`sameSecrets_run`).
-/

set_option autoImplicit false

namespace SecretSync

namespace Cluster

variable {φ : Type}

/-- What a request does on the shelf of its namespace: the reply, and the shelf that takes its
place, if one does. -/
def work : (r : StoreRequest) → Shelf → r.Reply × Option Shelf
  | .get ns name, s => ((s.get name).mapError (refusalError ns), none)
  | .create ns secret, s =>
    ((s.create ns secret).1.mapError (refusalError ns), some (s.create ns secret).2)
  | .update ns secret, s =>
    match s.update secret.name secret with
    | (.ok stored, s') => (.ok stored, some s')
    | (.error e, _) => (.error (refusalError ns e), none)
  | .list _ filter, s => (.ok (s.list filter), none)

/-- The cluster with another shelf for a namespace, if there is one to put. -/
def putShelf (c : Cluster φ) (ns : String) : Option Shelf → Cluster φ
  | none => c
  | some s => c.setShelf ns s

theorem get?_putShelf (c : Cluster φ) (ns : String) (s : Option Shelf) (ns' : String) :
    (c.putShelf ns s).shelves.get? ns'
      = if ns' = ns then s.or (c.shelves.get? ns) else c.shelves.get? ns' := by
  cases s with
  | none =>
    rw [Option.none_or]
    split
    · rename_i hns
      rw [hns]
      rfl
    · rfl
  | some s => exact SortedMap.get?_insert c.shelves ns s ns'

@[simp] theorem hooks_putShelf (c : Cluster φ) (ns : String) (s : Option Shelf) :
    (c.putShelf ns s).hooks = c.hooks := by
  cases s <;> rfl

/-- A request is answered from the shelf of its namespace and changes at most that shelf. -/
theorem perform_eq (c : Cluster φ) (r : StoreRequest) :
    c.perform r = ((work r (c.shelf (callOf r).ns)).1,
      c.putShelf (callOf r).ns (work r (c.shelf (callOf r).ns)).2) := by
  cases r with
  | get ns name => rfl
  | create ns secret => rfl
  | update ns secret =>
    simp only [perform, work, callOf]
    cases (c.shelf ns).update secret.name secret with
    | mk reply s => cases reply <;> rfl
  | list ns filter => rfl

/-- Without hooks a request is recorded and worked on. -/
theorem storeServer_of_unhooked {c : Cluster StoreError} (hc : c.hooks = []) (r : StoreRequest) :
    storeServer r c = ((work r (c.shelf (callOf r).ns)).1,
      putShelf { c with history := callOf r :: c.history } (callOf r).ns
        (work r (c.shelf (callOf r).ns)).2) := by
  unfold storeServer
  rw [enter_of_unhooked hc]
  exact perform_eq _ r

/-- The namespaces of a cluster without hooks are places: a request is answered from the shelf of
its namespace, and no other shelf changes. -/
theorem local_storeServer :
    Program.Local storeServer (fun r => (callOf r).ns)
      (fun ns (c : Cluster StoreError) => c.shelves.get? ns) fun c => c.hooks = [] where
  inv r c hc := by
    rw [storeServer_of_unhooked hc, hooks_putShelf]
    exact hc
  reply r c c' hc hc' hshelf := by
    rw [storeServer_of_unhooked hc, storeServer_of_unhooked hc', shelf, shelf, hshelf]
  change r c c' hc hc' hshelf := by
    rw [storeServer_of_unhooked hc, storeServer_of_unhooked hc', get?_putShelf, get?_putShelf,
      if_pos rfl, if_pos rfl, shelf, shelf, hshelf]
  frame r c hc ns hns := by
    rw [storeServer_of_unhooked hc, get?_putShelf, if_neg hns]

/-- A run leaves a cluster without hooks without hooks. -/
theorem unhooked_run {α : Type} {c : Cluster StoreError} (hc : c.hooks = []) (p : StoreProgram α) :
    (p.run storeServer c).state.hooks = [] :=
  @Program.invariant_run _ _ _ storeServer (fun c : Cluster StoreError => c.hooks = [])
    local_storeServer.inv p c hc

/-! ### One request and reading programs -/

section

variable {c c' : Cluster StoreError} {ns name : String}

/-- The second cluster holds the same secrets as the first. -/
def SameSecrets (c c' : Cluster StoreError) : Prop :=
  ∀ ns name, c'.secret? ns name = c.secret? ns name

/-- Where no name is excepted all secrets are the same. -/
theorem AgreeExcept.sameSecrets (h : AgreeExcept ns (fun _ => False) c c') : SameSecrets c c' := by
  intro ns' name
  by_cases hns : ns' = ns
  · rw [hns]
    exact h.secrets name id
  · exact congrArg (·.secrets.get? name) (h.shelves ns' hns)

/-- A request that is not answered with a written secret changes no secret. -/
theorem sameSecrets_of_unwritten (hc : c.hooks = []) {r : StoreRequest} {reply : r.Reply}
    (h : storeServer r c = (reply, c')) (hw : StoreExchange.written? ⟨r, reply⟩ = none) :
    SameSecrets c c' := by
  have hagree := agreeExcept_of_unwritten h hw
  rw [enter_of_unhooked hc] at hagree
  exact hagree.sameSecrets

/-- A program that writes nothing leaves all secrets as they are. The induction is on the
program. -/
theorem sameSecrets_run {α : Type} (p : StoreProgram α) (hc : c.hooks = [])
    (hw : ∀ x ∈ p.exchanges storeServer c, StoreExchange.written? x = none) :
    SameSecrets c (p.run storeServer c).state := by
  induction p generalizing c with
  | done a => exact fun _ _ => rfl
  | emit e p ih => exact ih hc hw
  | request r k ih =>
    have hhead := hw _ List.mem_cons_self
    have hrest := ih (storeServer r c).1 (local_storeServer.inv r c hc) fun x hx =>
      hw x (List.mem_cons_of_mem _ hx)
    intro ns name
    exact (hrest ns name).trans (sameSecrets_of_unwritten hc rfl hhead ns name)

/-- A request is recorded and carried out. -/
theorem storeServer_eq_perform (hc : c.hooks = []) (r : StoreRequest) :
    storeServer r c
      = ({ c with history := callOf r :: c.history } : Cluster StoreError).perform r := by
  unfold storeServer
  rw [enter_of_unhooked hc]

/-- A stored secret is read, and reading changes nothing. -/
theorem get_of_stored (hc : c.hooks = []) {s : Secret} (h : c.secret? ns name = some s) :
    ∃ c', storeServer (.get ns name) c = (.ok s, c') ∧ c'.hooks = [] ∧ SameSecrets c c' := by
  let entered : Cluster StoreError := { c with history := callOf (.get ns name) :: c.history }
  have hentered : entered.secret? ns name = some s := h
  have hanswer : storeServer (.get ns name) c = (.ok s, entered) := by
    rw [storeServer_eq_perform hc, perform_get, hentered]
  exact ⟨entered, hanswer, hc, sameSecrets_of_unwritten hc hanswer rfl⟩

/-- What is not stored is not found. -/
theorem get_of_absent (hc : c.hooks = []) (h : c.secret? ns name = none) :
    ∃ c', storeServer (.get ns name) c = (.error (.notFound (ns ++ "/" ++ name)), c') := by
  let entered : Cluster StoreError := { c with history := callOf (.get ns name) :: c.history }
  have hentered : entered.secret? ns name = none := h
  refine ⟨entered, ?_⟩
  rw [storeServer_eq_perform hc, perform_get, hentered]

/-- A replacement that is up to date is accepted. -/
theorem perform_update_of_upToDate {φ : Type} {c : Cluster φ} {secret old : Secret}
    (h : c.secret? ns secret.name = some old) (hdate : Shelf.upToDate secret old = true) :
    ∃ stored c', c.perform (.update ns secret) = (.ok stored, c') := by
  have hupdate : (c.shelf ns).update secret.name secret
      = (.ok ((c.shelf ns).stamped secret), (c.shelf ns).store secret.name secret) := by
    unfold secret? at h
    simp only [Shelf.update, h, hdate, if_true]
  simp only [perform, hupdate]
  exact ⟨_, _, rfl⟩

/-- A replacement that is up to date gives the secret a version and changes no other. -/
theorem update_of_stored (hc : c.hooks = []) {secret old : Secret}
    (h : c.secret? ns secret.name = some old) (hdate : Shelf.upToDate secret old = true) :
    ∃ stored c', storeServer (.update ns secret) c = (.ok stored, c') ∧
      stored.unversioned = secret.unversioned ∧ ∀ ns' name', c'.secret? ns' name'
        = if ns' = ns ∧ name' = secret.name then some stored else c.secret? ns' name' := by
  let entered : Cluster StoreError :=
    { c with history := callOf (.update ns secret) :: c.history }
  obtain ⟨stored, c', hperform⟩ : ∃ stored c',
      entered.perform (.update ns secret) = (.ok stored, c') := perform_update_of_upToDate h hdate
  have hanswer : storeServer (.update ns secret) c = (.ok stored, c') :=
    (storeServer_eq_perform hc _).trans hperform
  obtain ⟨rfl, -, hstored, hagree⟩ := perform_update_ok hperform
  refine ⟨_, c', hanswer, rfl, fun ns' name' => ?_⟩
  split
  · rename_i hplace
    obtain ⟨rfl, rfl⟩ := hplace
    exact hstored
  · rename_i hother
    by_cases hns : ns' = ns
    · subst hns
      exact hagree.secrets name' fun hname => hother ⟨rfl, hname⟩
    · exact congrArg (·.secrets.get? name') (hagree.shelves ns' hns)

end

end Cluster

end SecretSync
