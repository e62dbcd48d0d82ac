import SecretSync.Cluster.Basic

/-!
# `SecretSync.Proofs.Cluster.Versions`: versions are never given twice

Every write takes its version from the counter of its namespace, and the
counter only grows. So a version stands for one content: a secret that still
carries the version that was read is the secret that was read.

`Shelf.Versioned` and `Cluster.Versioned` say that all versions came from the
counters. `Later` relates two states of a shelf or a cluster: the counters did
not fall, and what is new carries a new version. `Advances` is one change: it
leads to a later state and keeps the versions in order. The main statements:

* `Shelf.Later.eq_of_upToDate`: a replacement that is accepted as up to date
  finds the secret that was read.
* `Cluster.advances_interfere`, `Cluster.advances_perform`: other writers
  advance a cluster, and so does every request.
* `Cluster.storeServer_later` and `Cluster.storeServer_regular`: answering a
  request, with everything that other writers do before it, leads to a later
  state and keeps the versions in order.
-/

set_option autoImplicit false

namespace SecretSync

/-- The texts of two versions are different. -/
theorem version_injective {v w : Nat} (h : toString v = toString w) : v = w := by
  have hdigits : Nat.toDigits 10 v = Nat.toDigits 10 w := by
    rw [← Nat.toList_repr, ← Nat.toList_repr]
    exact congrArg String.toList h
  rw [← Nat.ofDigitChars_ten_toDigits (n := v), hdigits, Nat.ofDigitChars_ten_toDigits]

/-- The metadata without the version of the last write. -/
def ObjectMeta.unversioned (m : ObjectMeta) : ObjectMeta := { m with resourceVersion := none }

/-- The secret without the version of its last write. -/
def Secret.unversioned (s : Secret) : Secret := { s with metadata := s.metadata.unversioned }

theorem Secret.name_of_unversioned {s s' : Secret} (h : s.unversioned = s'.unversioned) :
    s.name = s'.name := by
  have hname : s.unversioned.name = s'.unversioned.name := congrArg Secret.name h
  exact hname

theorem Secret.data_of_unversioned {s s' : Secret} (h : s.unversioned = s'.unversioned) :
    s.data = s'.data := by
  have hdata : s.unversioned.data = s'.unversioned.data := congrArg Secret.data h
  exact hdata

theorem Secret.name_of_metadata {s : Secret} {name : String} (h : s.metadata.name = some name) :
    s.name = name :=
  congrArg (·.getD "") h

/-! ### Shelves -/

namespace Shelf

/-- Every secret is on the shelf under its own name and got its version from the counter. -/
def Versioned (s : Shelf) : Prop :=
  ∀ name secret, s.secrets.get? name = some secret → secret.name = name ∧
    ∃ v ≤ s.version, secret.metadata.resourceVersion = some (toString v)

/-- The second shelf comes after the first: the counter did not fall, and a secret that was not
there before carries a version that the counter had not given yet. -/
structure Later (s s' : Shelf) : Prop where
  version : s.version ≤ s'.version
  fresh : ∀ name secret, s'.secrets.get? name = some secret →
    s.secrets.get? name = some secret ∨
      ∃ v, s.version < v ∧ secret.metadata.resourceVersion = some (toString v)

/-- A change leads to a later shelf and keeps the versions in order. -/
structure Advances (s s' : Shelf) : Prop where
  later : s.Later s'
  versioned : s.Versioned → s'.Versioned

theorem Later.refl (s : Shelf) : s.Later s := ⟨Nat.le_refl _, fun _ _ h => .inl h⟩

theorem Later.trans {s s' s'' : Shelf} (h : s.Later s') (h' : s'.Later s'') : s.Later s'' where
  version := Nat.le_trans h.version h'.version
  fresh name secret hget := by
    rcases h'.fresh name secret hget with hold | ⟨v, hv, hversion⟩
    · exact h.fresh name secret hold
    · exact .inr ⟨v, Nat.lt_of_le_of_lt h.version hv, hversion⟩

theorem Advances.refl (s : Shelf) : s.Advances s := ⟨.refl s, id⟩

theorem Advances.trans {s s' s'' : Shelf} (h : s.Advances s') (h' : s'.Advances s'') :
    s.Advances s'' :=
  ⟨h.later.trans h'.later, fun hs => h'.versioned (h.versioned hs)⟩

/-- Only the version that a secret carries decides whether it is up to date. -/
theorem upToDate_congr {secret secret' : Secret}
    (h : secret.metadata.resourceVersion = secret'.metadata.resourceVersion) (stored : Secret) :
    upToDate secret stored = upToDate secret' stored := by
  simp only [upToDate, h]

/-- A stored secret that a read one is up to date with is the read one, whatever happened since
the read: a change would have given it a new version. -/
theorem Later.eq_of_upToDate {s s' : Shelf} (h : s.Later s') (hs : s.Versioned) {name : String}
    {old new : Secret} (hold : s.secrets.get? name = some old)
    (hnew : s'.secrets.get? name = some new) (hdate : upToDate old new = true) : new = old := by
  obtain ⟨-, w, hw, hgiven⟩ := hs name old hold
  have hversion : new.metadata.resourceVersion = some (toString w) := by
    simp only [upToDate, hgiven] at hdate
    exact beq_iff_eq.1 hdate
  rcases h.fresh name new hnew with hkept | ⟨v, hv, hfresh⟩
  · exact Option.some.inj (hkept.symm.trans hold)
  · -- A fresh version is above the counter of the read, so it is not the one that was read.
    have hsame : v = w := version_injective (Option.some.inj (hfresh.symm.trans hversion))
    omega

theorem versioned_empty : empty.Versioned := fun _ _ h => nomatch h

/-- Counting up and losing secrets. -/
theorem advances_of_subset {s s' : Shelf} (hversion : s.version ≤ s'.version)
    (hsub : ∀ name secret, s'.secrets.get? name = some secret →
      s.secrets.get? name = some secret) : s.Advances s' where
  later := ⟨hversion, fun name secret hget => .inl (hsub name secret hget)⟩
  versioned hs := by
    intro name secret hget
    obtain ⟨hname, v, hv, hgiven⟩ := hs name secret (hsub name secret hget)
    exact ⟨hname, v, Nat.le_trans hv hversion, hgiven⟩

/-! #### One write -/

theorem get?_store (s : Shelf) (name : String) (secret : Secret) (n : String) :
    (s.store name secret).secrets.get? n
      = if n = name then some (s.stamped secret) else s.secrets.get? n :=
  SortedMap.get?_insert s.secrets name (s.stamped secret) n

@[simp] theorem unversioned_stamped (s : Shelf) (secret : Secret) :
    (s.stamped secret).unversioned = secret.unversioned := rfl

/-- A write counts up by one, and what it stores carries the new count. -/
theorem advances_store (s : Shelf) {name : String} {secret : Secret}
    (hname : secret.name = name) : s.Advances (s.store name secret) where
  later := by
    refine ⟨Nat.le_succ _, ?_⟩
    intro n x hget
    rw [get?_store] at hget
    split at hget
    · obtain rfl := Option.some.inj hget
      exact .inr ⟨s.version + 1, Nat.lt_succ_self _, rfl⟩
    · exact .inl hget
  versioned hs := by
    intro n x hget
    rw [get?_store] at hget
    split at hget
    · rename_i hn
      obtain rfl := Option.some.inj hget
      exact ⟨hname.trans hn.symm, s.version + 1, Nat.le_refl _, rfl⟩
    · obtain ⟨hxname, v, hv, hgiven⟩ := hs n x hget
      exact ⟨hxname, v, Nat.le_succ_of_le hv, hgiven⟩

/-! #### What other writers do -/

theorem put_of_unversioned {s : Shelf} {secret : Secret}
    (h : secret.metadata.resourceVersion = none) :
    s.put secret = s.store secret.name secret := by
  simp only [put, h]

theorem get?_delete (s : Shelf) (name n : String) :
    (s.delete name).secrets.get? n = if n = name then none else s.secrets.get? n :=
  SortedMap.get?_erase s.secrets name n

theorem advances_delete (s : Shelf) (name : String) : s.Advances (s.delete name) := by
  refine advances_of_subset (Nat.le_refl _) ?_
  intro n secret hget
  rw [get?_delete] at hget
  split at hget
  · cases hget
  · exact hget

/-! #### Requests -/

@[simp] theorem secrets_countName (s : Shelf) (secret : Secret) :
    (s.countName secret).secrets = s.secrets := by
  unfold countName
  split <;> rfl

@[simp] theorem version_countName (s : Shelf) (secret : Secret) :
    (s.countName secret).version = s.version := by
  unfold countName
  split <;> rfl

/-- What a creation stores: the secret under its name and in its namespace. -/
def named (s : Shelf) (ns : String) (secret : Secret) : Secret :=
  { secret with
    metadata := { secret.metadata with name := some (s.nameFor secret), ns := some ns } }

/-- A secret that has its name and its namespace already is stored as it is. -/
theorem named_eq_self {s : Shelf} {ns : String} {secret : Secret}
    (hname : secret.metadata.name = some (s.nameFor secret))
    (hns : secret.metadata.ns = some ns) : s.named ns secret = secret := by
  unfold named
  rw [← hname, ← hns]

/-- A creation is refused if the name is taken, and else stores the named secret. -/
theorem create_eq (s : Shelf) (ns : String) (secret : Secret) :
    s.create ns secret
      = if s.secrets.contains (s.nameFor secret) then
          (.error (.alreadyExists (s.nameFor secret)), s.countName secret)
        else
          (.ok (s.stamped (s.named ns secret)),
            (s.countName secret).store (s.nameFor secret) (s.named ns secret)) := by
  unfold create
  simp only [secrets_countName, stamped, version_countName, named]

theorem advances_countName (s : Shelf) (secret : Secret) : s.Advances (s.countName secret) :=
  advances_of_subset (by simp) (by simp)

/-- A creation counts a generated name up, even if it is refused. -/
theorem advances_create (s : Shelf) (ns : String) (secret : Secret) :
    s.Advances (s.create ns secret).2 := by
  rw [create_eq]
  split
  · exact advances_countName s secret
  · exact (advances_countName s secret).trans (advances_store _ rfl)

theorem advances_update (s : Shelf) (secret : Secret) :
    s.Advances (s.update secret.name secret).2 := by
  simp only [update]
  split
  · exact .refl s
  · split
    · exact advances_store s rfl
    · exact .refl s

end Shelf

/-! ### Clusters -/

/-- A hook whose writes get their versions from the counters. -/
def Hook.Unversioned {φ : Type} (hook : Hook φ) : Prop :=
  ∀ secret ∈ hook.writes, secret.metadata.resourceVersion = none

namespace Cluster

variable {φ : Type}

/-- Every stored secret got its version from the counter of its namespace. -/
def Versioned (c : Cluster φ) : Prop := ∀ ns, (c.shelf ns).Versioned

/-- The second cluster comes after the first. -/
def Later (c c' : Cluster φ) : Prop := ∀ ns, (c.shelf ns).Later (c'.shelf ns)

/-- All versions come from the counters, and those of what other writers are about to write will
do so too. -/
structure Regular (c : Cluster φ) : Prop where
  versioned : c.Versioned
  hooks : ∀ hook ∈ c.hooks, hook.Unversioned

/-- A change advances every shelf and leaves the hooks alone. -/
structure Advances (c c' : Cluster φ) : Prop where
  shelves : ∀ ns, (c.shelf ns).Advances (c'.shelf ns)
  hooks : c'.hooks = c.hooks

theorem Later.refl (c : Cluster φ) : c.Later c := fun _ => .refl _

theorem Later.trans {c c' c'' : Cluster φ} (h : c.Later c') (h' : c'.Later c'') : c.Later c'' :=
  fun ns => (h ns).trans (h' ns)

theorem Advances.refl (c : Cluster φ) : c.Advances c := ⟨fun _ => .refl _, rfl⟩

theorem Advances.trans {c c' c'' : Cluster φ} (h : c.Advances c') (h' : c'.Advances c'') :
    c.Advances c'' :=
  ⟨fun ns => (h.shelves ns).trans (h'.shelves ns), h'.hooks.trans h.hooks⟩

theorem Advances.later {c c' : Cluster φ} (h : c.Advances c') : c.Later c' :=
  fun ns => (h.shelves ns).later

theorem Advances.versioned {c c' : Cluster φ} (h : c.Advances c') (hc : c.Versioned) :
    c'.Versioned :=
  fun ns => (h.shelves ns).versioned (hc ns)

theorem Advances.regular {c c' : Cluster φ} (h : c.Advances c') (hc : c.Regular) :
    c'.Regular := by
  refine ⟨h.versioned hc.versioned, ?_⟩
  rw [h.hooks]
  exact hc.hooks

/-- A sequence of changes advances a cluster if each of them does. -/
theorem advances_foldl {β : Type} {f : Cluster φ → β → Cluster φ} {l : List β}
    (hf : ∀ b ∈ l, ∀ c : Cluster φ, c.Advances (f c b)) (c : Cluster φ) : c.Advances (l.foldl f c) := by
  induction l generalizing c with
  | nil => exact .refl c
  | cons b rest ih =>
    have hrest : ∀ b' ∈ rest, ∀ c : Cluster φ, c.Advances (f c b') := by
      intro b' hb'
      exact hf b' (List.mem_cons_of_mem b hb')
    exact (hf b List.mem_cons_self c).trans (ih hrest (f c b))

theorem shelf_setShelf (c : Cluster φ) (ns : String) (s : Shelf) (ns' : String) :
    (c.setShelf ns s).shelf ns' = if ns' = ns then s else c.shelf ns' := by
  unfold shelf setShelf
  rw [SortedMap.get?_insert]
  split <;> rfl

theorem versioned_empty : (empty : Cluster φ).Versioned := fun _ => Shelf.versioned_empty

theorem advances_setShelf {c : Cluster φ} {ns : String} {s : Shelf}
    (hs : (c.shelf ns).Advances s) : c.Advances (c.setShelf ns s) := by
  refine ⟨?_, rfl⟩
  intro ns'
  rw [shelf_setShelf]
  split
  · rename_i hns
    rw [hns]
    exact hs
  · exact .refl _

/-! #### What other writers do -/

theorem advances_put (c : Cluster φ) {secret : Secret}
    (h : secret.metadata.resourceVersion = none) : c.Advances (c.put secret) := by
  let ns := secret.metadata.ns.getD fallbackNamespace
  let placed : Secret := { secret with metadata := { secret.metadata with ns := some ns } }
  have hplaced : placed.metadata.resourceVersion = none := h
  show c.Advances (c.setShelf ns ((c.shelf ns).put placed))
  rw [Shelf.put_of_unversioned hplaced]
  exact advances_setShelf (Shelf.advances_store _ rfl)

theorem advances_delete (c : Cluster φ) (ns name : String) : c.Advances (c.delete ns name) := by
  have hshelf : ∀ s, c.shelves.get? ns = some s → c.shelf ns = s := by
    intro s hs
    simp only [shelf, hs, Option.getD_some]
  unfold delete
  split
  · rename_i s hs
    refine advances_setShelf ?_
    rw [hshelf s hs]
    exact Shelf.advances_delete s name
  · exact .refl c

/-- The other writers of a hook advance the cluster. -/
theorem advances_interfere (c : Cluster φ) {hook : Hook φ} (h : hook.Unversioned) :
    c.Advances (c.interfere hook) := by
  have hdeleted : c.Advances (hook.deletions.foldl (fun c d => c.delete d.1 d.2) c) :=
    advances_foldl (fun d _ c => advances_delete c d.1 d.2) c
  exact hdeleted.trans (advances_foldl (fun secret hs c => advances_put c (h secret hs)) _)

theorem takeFirst_spec {α : Type} {p : α → Bool} {l rest : List α} {a : α}
    (h : takeFirst p l = some (a, rest)) : a ∈ l ∧ ∀ x ∈ rest, x ∈ l := by
  induction l generalizing rest with
  | nil => cases h
  | cons b l ih =>
    unfold takeFirst at h
    split at h
    · obtain ⟨rfl, rfl⟩ := Prod.mk.inj (Option.some.inj h)
      exact ⟨List.mem_cons_self, fun x hx => List.mem_cons_of_mem _ hx⟩
    · obtain ⟨⟨a', rest'⟩, hfound, he⟩ := Option.map_eq_some_iff.1 h
      obtain ⟨rfl, rfl⟩ := Prod.mk.inj he
      obtain ⟨ha, hrest⟩ := ih hfound
      refine ⟨List.mem_cons_of_mem _ ha, ?_⟩
      intro x hx
      rcases List.mem_cons.1 hx with rfl | hx
      · exact List.mem_cons_self
      · exact List.mem_cons_of_mem _ (hrest x hx)

/-- Without hooks a call is recorded, and that is all. -/
theorem enter_of_unhooked {c : Cluster φ} (hc : c.hooks = []) (call : Call) :
    c.enter call = (none, { c with history := call :: c.history }) := by
  unfold enter
  rw [hc]
  rfl

/-- Recording a call and firing its hook. -/
theorem enter_regular {c : Cluster φ} (hc : c.Regular) (call : Call) :
    (c.enter call).2.Regular ∧ c.Later (c.enter call).2 := by
  simp only [enter]
  split
  · exact ⟨⟨hc.versioned, hc.hooks⟩, .refl c⟩
  · rename_i hook rest hfound
    obtain ⟨hmem, hrest⟩ := takeFirst_spec hfound
    have hentered : Regular ({ c with history := call :: c.history, hooks := rest }) :=
      ⟨hc.versioned, fun hook' hk => hc.hooks hook' (hrest hook' hk)⟩
    have hadvances := advances_interfere { c with history := call :: c.history, hooks := rest }
      (hc.hooks hook hmem)
    exact ⟨hadvances.regular hentered, hadvances.later⟩

/-! #### Requests -/

/-- Carrying out a request changes at most the shelf of its namespace. -/
theorem advances_perform (c : Cluster φ) (r : StoreRequest) : c.Advances (c.perform r).2 := by
  cases r with
  | get ns name => exact .refl c
  | list ns filter => exact .refl c
  | create ns secret => exact advances_setShelf (Shelf.advances_create _ ns secret)
  | update ns secret =>
    have hupdated := Shelf.advances_update (c.shelf ns) secret
    simp only [perform]
    split
    · rename_i stored s hok
      rw [hok] at hupdated
      exact advances_setShelf hupdated
    · exact .refl c

/-- The state after a request is the one its hook leaves, with the request carried out unless the
hook made it fail. -/
theorem storeServer_cases (c : Cluster StoreError) (r : StoreRequest) :
    (∃ e, storeServer r c = (failed e r, (c.enter (callOf r)).2)) ∨
      storeServer r c = (c.enter (callOf r)).2.perform r := by
  unfold storeServer
  split
  · rename_i e c' henter
    exact .inl ⟨e, by rw [henter]⟩
  · rename_i c' henter
    exact .inr (by rw [henter])

/-- What follows the hook of a request advances the cluster. -/
theorem advances_storeServer (c : Cluster StoreError) (r : StoreRequest) :
    (c.enter (callOf r)).2.Advances (storeServer r c).2 := by
  rcases storeServer_cases c r with ⟨e, h⟩ | h <;> rw [h]
  · exact .refl _
  · exact advances_perform _ r

/-- Answering a request keeps the versions in order. -/
theorem storeServer_regular {c : Cluster StoreError} (hc : c.Regular) (r : StoreRequest) :
    (storeServer r c).2.Regular :=
  (advances_storeServer c r).regular (enter_regular hc (callOf r)).1

/-- Answering a request leads to a later state. -/
theorem storeServer_later {c : Cluster StoreError} (hc : c.Regular) (r : StoreRequest) :
    c.Later (storeServer r c).2 :=
  (enter_regular hc (callOf r)).2.trans (advances_storeServer c r).later

end Cluster

end SecretSync
