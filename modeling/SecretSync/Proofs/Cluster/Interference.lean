import SecretSync.Proofs.Cluster.Failures
import SecretSync.Proofs.Cluster.Namespaces

/-!
# `SecretSync.Proofs.Cluster.Interference`: a cluster with one pending hook

A hook fires before the first call that it waits for, and then it is gone.
`Cluster.Racing` says what that means for the states that a program goes
through before it has written anything: until the hook fires all secrets are as
they were, and from then on they are what the other writers would have made of
the first state (`Racing.enter`).

So what stands at a place can be read off from whether the hook is still there
(`Racing.secret?_eq`), and when it fires does not matter.

`Racing.get`, `Racing.update` and `Racing.create` are the three requests. A
replacement is lost only if the race deletes the secret right before it, and a
creation only if the race puts the secret there right before it. `Hook.Race`
leaves out what nobody could absorb: a failure, and a write between a read and
the replacement of what was read, which is a conflict.
-/

set_option autoImplicit false

namespace SecretSync

/-- A hook with which other writers act once. They make no call fail, and unless it is right before
a read or a creation that they act, they only delete. -/
structure Hook.Race {φ : Type} (hook : Hook φ) : Prop where
  harmless : hook.failure = none
  early : hook.writes = [] ∨ hook.verb = .get ∨ hook.verb = .create

namespace Cluster

section

variable {φ : Type} {c c' : Cluster φ}

/-! ### What other writers make of a cluster -/

/-- Other writers look at the shelves only, so calls and hooks do not matter to what they do. -/
theorem shelves_interfere (h : c.shelves = c'.shelves) (hook : Hook φ) :
    (c.interfere hook).shelves = (c'.interfere hook).shelves := by
  have hfoldl {β : Type} {change : Cluster φ → β → Cluster φ}
      (hchange : ∀ (c c' : Cluster φ) b, c.shelves = c'.shelves →
        (change c b).shelves = (change c' b).shelves) (l : List β) :
      ∀ {c c' : Cluster φ}, c.shelves = c'.shelves →
        (l.foldl change c).shelves = (l.foldl change c').shelves := by
    induction l with
    | nil => exact id
    | cons b rest ih => exact fun h => ih (hchange _ _ b h)
  refine hfoldl ?_ hook.writes (hfoldl ?_ hook.deletions h)
  · intro c c' secret h
    simp only [put, setShelf, shelf, h]
  · intro c c' place h
    unfold delete
    rw [h]
    split
    · simp only [setShelf, h]
    · exact h

theorem secret?_of_shelves (h : c.shelves = c'.shelves) (ns name : String) :
    c.secret? ns name = c'.secret? ns name := by
  unfold secret? shelf
  rw [h]

theorem shelf_delete (c : Cluster φ) (ns name ns' : String) :
    (c.delete ns name).shelf ns' = if ns' = ns then (c.shelf ns).delete name else c.shelf ns' := by
  unfold delete
  split
  · rename_i s hs
    have hshelf : c.shelf ns = s := by simp [shelf, hs]
    rw [shelf_setShelf, hshelf]
  · -- Without a shelf there is nothing to delete, and the empty shelf stays empty.
    rename_i hs
    have hshelf : c.shelf ns = .empty := by simp [shelf, hs]
    split
    · rename_i hns
      rw [hns, hshelf]
      rfl
    · rfl

theorem secret?_delete (c : Cluster φ) (ns name ns' name' : String) :
    (c.delete ns name).secret? ns' name'
      = if ns' = ns ∧ name' = name then none else c.secret? ns' name' := by
  unfold secret?
  rw [shelf_delete]
  by_cases hns : ns' = ns
  · rw [if_pos hns, Shelf.get?_delete, hns]
    simp
  · simp [hns]

/-- Writers that only delete leave a place as it was or empty. -/
theorem secret?_interfere_of_no_writes (c : Cluster φ) {hook : Hook φ} (h : hook.writes = [])
    (ns name : String) :
    (c.interfere hook).secret? ns name = c.secret? ns name ∨
      (c.interfere hook).secret? ns name = none := by
  have hdeletions (deletions : List (String × String)) (c : Cluster φ) :
      (deletions.foldl (fun c d => c.delete d.1 d.2) c).secret? ns name = c.secret? ns name ∨
        (deletions.foldl (fun c d => c.delete d.1 d.2) c).secret? ns name = none := by
    induction deletions generalizing c with
    | nil => exact .inl rfl
    | cons place rest ih =>
      rcases ih (c.delete place.1 place.2) with hkept | hgone
      · -- The others have left the place as the first one has left it.
        rw [List.foldl_cons, hkept, secret?_delete]
        split
        · exact .inr rfl
        · exact .inl rfl
      · exact .inr hgone
  unfold interfere
  rw [h]
  exact hdeletions hook.deletions c

/-- What is written last to a place stands there. -/
theorem secret?_interfere_of_write (c : Cluster φ) {hook : Hook φ} {earlier : List Secret}
    {secret : Secret} (h : hook.writes = earlier ++ [secret]) :
    ∃ stored, (c.interfere hook).secret? (secret.metadata.ns.getD fallbackNamespace) secret.name
      = some stored ∧ stored.data = secret.data := by
  unfold interfere
  rw [h, List.foldl_append]
  show ∃ stored, (put _ secret).secret? _ _ = some stored ∧ _
  generalize List.foldl put _ earlier = c
  unfold put
  rw [secret?_setShelf]
  unfold Shelf.put
  split
  · rw [Shelf.get?_store]
    exact ⟨_, if_pos rfl, rfl⟩
  · rw [SortedMap.get?_insert]
    exact ⟨_, if_pos rfl, rfl⟩

/-! ### Requests that are carried out or refused -/

variable {ns : String} {secret : Secret}

theorem hooks_of_perform {r : StoreRequest} {reply : r.Reply} (h : c.perform r = (reply, c')) :
    c'.hooks = c.hooks := by
  have hadvances := advances_perform c r
  rw [h] at hadvances
  exact hadvances.hooks

theorem perform_update_of_absent (h : c.secret? ns secret.name = none) :
    c.perform (.update ns secret) = (.error (.notFound (ns ++ "/" ++ secret.name)), c) := by
  unfold secret? at h
  simp [perform, Shelf.update, h, refusalError]

theorem perform_create_of_free (h : c.secret? ns ((c.shelf ns).nameFor secret) = none) :
    ∃ stored c', c.perform (.create ns secret) = (.ok stored, c') := by
  have hfree : (c.shelf ns).secrets.contains ((c.shelf ns).nameFor secret) = false := by
    simpa [SortedMap.contains, secret?] using h
  simp only [perform, Shelf.create_eq, hfree]
  exact ⟨_, _, rfl⟩

theorem perform_create_of_taken {old : Secret}
    (h : c.secret? ns ((c.shelf ns).nameFor secret) = some old) :
    ∃ detail c', c.perform (.create ns secret) = (.error (.alreadyExists detail), c') := by
  have htaken : (c.shelf ns).secrets.contains ((c.shelf ns).nameFor secret) = true := by
    unfold secret? at h
    simp [SortedMap.contains, h]
  simp only [perform, Shelf.create_eq, htaken]
  exact ⟨_, _, rfl⟩

end

/-! ### Before and after -/

variable {c u : Cluster StoreError} {hook : Hook StoreError}

/-- A cluster as a race has left it, or as it was if the hook is still there. -/
def raced (c : Cluster StoreError) (hook : Hook StoreError) (hooks : List (Hook StoreError)) :
    Cluster StoreError :=
  if hooks.isEmpty then c.interfere hook else c

/-- A state of a cluster on the way through one race, before any own write. -/
inductive Racing (c : Cluster StoreError) (hook : Hook StoreError) (u : Cluster StoreError) : Prop
  /-- The hook waits, and nothing has changed. -/
  | before (hooks : u.hooks = [hook]) (shelves : u.shelves = c.shelves)
  /-- The hook is gone, and other writers have done what they would have done in the beginning. -/
  | after (hooks : u.hooks = []) (secrets : SameSecrets (c.interfere hook) u)

/-- What stands at a place depends on whether the hook is still there. -/
theorem Racing.secret?_eq (hu : Racing c hook u) (ns name : String) :
    u.secret? ns name = (c.raced hook u.hooks).secret? ns name := by
  unfold raced
  cases hu with
  | before hooks shelves =>
    rw [hooks]
    exact secret?_of_shelves shelves ns name
  | after hooks secrets =>
    rw [hooks]
    exact secrets ns name

/-- A call fires the hook if it waits for it. -/
theorem enter_of_single (hooks : u.hooks = [hook]) (call : Call) :
    u.enter call = if hook.waitsFor call then
        (hook.failure, interfere { u with history := call :: u.history, hooks := [] } hook)
      else (none, { u with history := call :: u.history }) := by
  by_cases hwaits : hook.waitsFor call = true
  · simp [Cluster.enter, hooks, takeFirst, hwaits]
  · simp [Cluster.enter, hooks, takeFirst, hwaits]

/-- A call either finds everything as it was, or the race happens right before it. -/
theorem Racing.enter (hu : Racing c hook u) (hrace : hook.Race) (call : Call) :
    (u.enter call).1 = none ∧ Racing c hook (u.enter call).2 ∧
      (SameSecrets u (u.enter call).2 ∧ (u.enter call).2.hooks = u.hooks ∨
        hook.verb = call.verb ∧ u.hooks = [hook] ∧ (u.enter call).2.hooks = [] ∧
          SameSecrets (u.interfere hook) (u.enter call).2) := by
  cases hu with
  | after hooks secrets =>
    rw [enter_of_unhooked hooks]
    exact ⟨rfl, .after hooks secrets, .inl ⟨fun _ _ => rfl, rfl⟩⟩
  | before hooks shelves =>
    rw [enter_of_single hooks]
    split
    · rename_i hwaits
      have hverb : hook.verb = call.verb := by
        unfold Hook.waitsFor at hwaits
        simp only [Bool.and_eq_true, beq_iff_eq] at hwaits
        exact hwaits.1.1
      let entered : Cluster StoreError := { u with history := call :: u.history, hooks := [] }
      have hgone : (entered.interfere hook).hooks = [] := hooks_interfere entered hook
      -- What the others do now they would have done in the beginning, and right before this call.
      have hfired (v : Cluster StoreError) (hv : entered.shelves = v.shelves) :
          SameSecrets (v.interfere hook) (entered.interfere hook) :=
        fun ns name => secret?_of_shelves (shelves_interfere hv hook) ns name
      exact ⟨hrace.harmless, .after hgone (hfired c shelves),
        .inr ⟨hverb, hooks, hgone, hfired u rfl⟩⟩
    · exact ⟨rfl, .before hooks shelves, .inl ⟨fun _ _ => rfl, rfl⟩⟩

/-- No call fails because of the hook. -/
theorem Racing.storeServer_eq (hu : Racing c hook u) (hrace : hook.Race) (r : StoreRequest) :
    storeServer r u = (u.enter (callOf r)).2.perform r := by
  obtain ⟨hnone, -⟩ := hu.enter hrace (callOf r)
  unfold storeServer
  generalize u.enter (callOf r) = entered at hnone ⊢
  obtain ⟨failure, entered⟩ := entered
  obtain rfl : failure = none := hnone
  rfl

/-- After the race, what changes no secret does not matter. -/
theorem Racing.of_sameSecrets (hu : Racing c hook u) (hooks : u.hooks = [])
    {u' : Cluster StoreError} (hooks' : u'.hooks = []) (h : SameSecrets u u') :
    Racing c hook u' := by
  cases hu with
  | before waiting _ => cases waiting.symm.trans hooks
  | after _ secrets => exact .after hooks' fun ns name => (h ns name).trans (secrets ns name)

/-! ### One request -/

variable {ns name : String} {secret old : Secret}

/-- Reading answers with what is there afterwards. Once the race is over, that is what was there
before. -/
theorem Racing.get (hu : Racing c hook u) (hrace : hook.Race) (ns name : String) :
    ∃ u', Racing c hook u' ∧ (u.hooks = [] → u'.hooks = [] ∧ SameSecrets u u') ∧
      ((∃ s, storeServer (.get ns name) u = (.ok s, u') ∧ u'.secret? ns name = some s) ∨
        ∃ detail, storeServer (.get ns name) u = (.error (.notFound detail), u') ∧
          u'.secret? ns name = none) := by
  obtain ⟨-, hnext, hfound⟩ := hu.enter hrace (callOf (.get ns name))
  have hanswer := hu.storeServer_eq hrace (.get ns name)
  rw [perform_get] at hanswer
  refine ⟨_, hnext, fun hooks => ?_, ?_⟩
  · rcases hfound with ⟨hsame, hkept⟩ | ⟨-, hwaiting, -⟩
    · exact ⟨hkept.trans hooks, hsame⟩
    · cases hooks.symm.trans hwaiting
  · rw [hanswer]
    cases (u.enter (callOf (.get ns name))).2.secret? ns name with
    | some s => exact .inl ⟨s, rfl, rfl⟩
    | none => exact .inr ⟨_, rfl, rfl⟩

/-- Replacing a secret that is there and has not changed is accepted, unless the race deletes it
right before. -/
theorem Racing.update (hu : Racing c hook u) (hrace : hook.Race)
    (hold : u.secret? ns secret.name = some old) (hdate : Shelf.upToDate secret old = true) :
    ∃ u', (∃ s, storeServer (.update ns secret) u = (.ok s, u') ∧
        s.unversioned = secret.unversioned ∧
        (c.raced hook u'.hooks).secret? ns secret.name = some old) ∨
      u.hooks = [hook] ∧ (∃ detail, storeServer (.update ns secret) u
        = (.error (.notFound detail), u')) ∧
        Racing c hook u' ∧ u'.secret? ns secret.name = none := by
  obtain ⟨-, hnext, hfound⟩ := hu.enter hrace (callOf (.update ns secret))
  rw [hu.storeServer_eq hrace]
  generalize (u.enter (callOf (.update ns secret))).2 = next at hnext hfound
  have hkept : next.secret? ns secret.name = some old ∨
      u.hooks = [hook] ∧ next.secret? ns secret.name = none := by
    rcases hfound with ⟨hsame, -⟩ | ⟨hverb, hwaiting, -, hsame⟩
    · exact .inl ((hsame ns secret.name).trans hold)
    · -- A race that happens here does not write.
      have hverb : hook.verb = .update := hverb
      have hwrites : hook.writes = [] := by simpa [hverb] using hrace.early
      rw [hsame ns secret.name, ← hold]
      exact (secret?_interfere_of_no_writes u hwrites ns secret.name).imp_right fun hgone =>
        ⟨hwaiting, hgone⟩
  rcases hkept with hkept | ⟨hwaiting, hgone⟩
  · obtain ⟨s, u', hperform⟩ := perform_update_of_upToDate hkept hdate
    obtain ⟨rfl, -⟩ := perform_update_ok hperform
    refine ⟨u', .inl ⟨_, hperform, rfl, ?_⟩⟩
    rw [hooks_of_perform hperform, ← hnext.secret?_eq, hkept]
  · rw [perform_update_of_absent hgone]
    exact ⟨next, .inr ⟨hwaiting, ⟨_, rfl⟩, hnext, hgone⟩⟩

/-- Creating a secret that is not there is accepted, unless the race puts it there right before. -/
theorem Racing.create (hu : Racing c hook u) (hrace : hook.Race)
    (hname : secret.metadata.name = some name) (hne : name ≠ "")
    (hns : secret.metadata.ns = some ns) (hnone : u.secret? ns name = none) :
    ∃ u', (∃ s, storeServer (.create ns secret) u = (.ok s, u') ∧
        s.unversioned = secret.unversioned ∧ (c.raced hook u'.hooks).secret? ns name = none) ∨
      (∃ detail, storeServer (.create ns secret) u = (.error (.alreadyExists detail), u')) ∧
        Racing c hook u' ∧ u'.hooks = [] ∧ u'.secret? ns name ≠ none := by
  obtain ⟨-, hnext, hfound⟩ := hu.enter hrace (callOf (.create ns secret))
  rw [hu.storeServer_eq hrace]
  generalize (u.enter (callOf (.create ns secret))).2 = next at hnext hfound
  have hfor : (next.shelf ns).nameFor secret = name := by
    have hsecret : secret.name = name := Secret.name_of_metadata hname
    rw [← hsecret]
    exact (Shelf.nameFor_spec _ secret).2 (hsecret.symm ▸ hne)
  cases hplace : next.secret? ns name with
  | none =>
    obtain ⟨s, u', hperform⟩ := perform_create_of_free (hfor.symm ▸ hplace)
    obtain ⟨rfl, -⟩ := perform_create_ok hperform
    refine ⟨u', .inl ⟨_, hperform, ?_, ?_⟩⟩
    · rw [Shelf.unversioned_stamped, Shelf.named_eq_self (hfor.symm ▸ hname) hns]
    · rw [hooks_of_perform hperform, ← hnext.secret?_eq, hplace]
  | some old =>
    -- The place was free before this call, so it was the race that took it.
    have hgone : next.hooks = [] := by
      rcases hfound with ⟨hsame, -⟩ | ⟨-, -, hgone, -⟩
      · rw [hsame ns name, hnone] at hplace
        cases hplace
      · exact hgone
    obtain ⟨detail, u', hperform⟩ := perform_create_of_taken (hfor.symm ▸ hplace)
    have hsame := (agreeExcept_perform hperform rfl).sameSecrets
    have hgone' := (hooks_of_perform hperform).trans hgone
    refine ⟨u', .inr ⟨⟨detail, hperform⟩, hnext.of_sameSecrets hgone hgone' hsame, hgone', ?_⟩⟩
    rw [hsame ns name, hplace]
    exact Option.some_ne_none old

end Cluster

end SecretSync
