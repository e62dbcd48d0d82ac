import SecretSync.Proofs.Binding.Calls
import SecretSync.Proofs.Cluster.Names

/-!
# `SecretSync.Proofs.Cluster.Requests`: what one request does to a cluster

`Cluster.AgreeExcept` says where two states of a cluster may differ: in one
namespace, and there in the counters and in the secrets of the given names. A
request that is answered with a written secret changes that secret and no other
(`perform_create_ok`, `perform_update_ok`). Any other request changes no secret
(`agreeExcept_of_unwritten`).

`Cluster.lastEntered` is the state in which the last of some steps took effect,
after what other writers did right before it.

Whatever happens, a cluster answers with the secret that it was asked for or
with a failure (`faithful_storeServer`).
-/

set_option autoImplicit false

namespace SecretSync

namespace Cluster

variable {φ : Type}

/-- The second cluster differs from the first at most in one namespace: in its counters and in the
secrets of the given names. -/
structure AgreeExcept (ns : String) (names : String → Prop) (c c' : Cluster φ) : Prop where
  shelves : ∀ ns', ns' ≠ ns → c'.shelf ns' = c.shelf ns'
  secrets : ∀ name, ¬names name → c'.secret? ns name = c.secret? ns name
  hooks : c'.hooks = c.hooks
  history : c'.history = c.history

theorem AgreeExcept.refl (ns : String) (names : String → Prop) (c : Cluster φ) :
    AgreeExcept ns names c c := ⟨fun _ _ => rfl, fun _ _ => rfl, rfl, rfl⟩

theorem secret?_setShelf (c : Cluster φ) (ns : String) (s : Shelf) (name : String) :
    (c.setShelf ns s).secret? ns name = s.secrets.get? name := by
  unfold secret?
  rw [shelf_setShelf, if_pos rfl]

/-- Another shelf for a namespace, with the same secrets of other names. -/
theorem agreeExcept_setShelf {names : String → Prop} (c : Cluster φ) (ns : String) (s : Shelf)
    (h : ∀ name, ¬names name → s.secrets.get? name = c.secret? ns name) :
    AgreeExcept ns names c (c.setShelf ns s) where
  shelves ns' hns := by rw [shelf_setShelf, if_neg hns]
  secrets name hname := by
    rw [secret?_setShelf]
    exact h name hname
  hooks := rfl
  history := rfl

/-- A store of a shelf changes the secret of one name. -/
theorem agreeExcept_store (c : Cluster φ) (ns : String) (s : Shelf)
    (hs : ∀ n, s.secrets.get? n = c.secret? ns n) (name : String) (secret : Secret) :
    AgreeExcept ns (· = name) c (c.setShelf ns (s.store name secret)) := by
  refine agreeExcept_setShelf c ns _ ?_
  intro n hn
  rw [Shelf.get?_store, if_neg hn]
  exact hs n

/-! ### Requests, hooks aside -/

theorem perform_get (c : Cluster φ) (ns name : String) :
    c.perform (.get ns name) = (match c.secret? ns name with
      | some secret => .ok secret
      | none => .error (.notFound (ns ++ "/" ++ name)), c) := by
  simp only [perform, Shelf.get, secret?]
  cases (c.shelf ns).secrets.get? name <;> rfl

/-- A creation that was answered with a secret put it into a place that was free. -/
theorem perform_create_ok {c c' : Cluster φ} {ns : String} {secret stored : Secret}
    (h : c.perform (.create ns secret) = (.ok stored, c')) :
    stored = (c.shelf ns).stamped ((c.shelf ns).named ns secret) ∧
      c.secret? ns stored.name = none ∧ c'.secret? ns stored.name = some stored ∧
      AgreeExcept ns (· = stored.name) c c' := by
  simp only [perform, Shelf.create_eq] at h
  split at h
  · cases h
  · rename_i hfree
    obtain ⟨hok, rfl⟩ := Prod.mk.inj h
    obtain rfl := Except.ok.inj hok
    have hfree : c.secret? ns ((c.shelf ns).nameFor secret) = none := by
      simpa [SortedMap.contains, secret?] using hfree
    refine ⟨rfl, hfree, ?_, ?_⟩
    · -- Completing a name counts no version up, so the stamp is the same.
      have hstamped : ((c.shelf ns).countName secret).stamped ((c.shelf ns).named ns secret)
          = (c.shelf ns).stamped ((c.shelf ns).named ns secret) := by
        simp only [Shelf.stamped, Shelf.version_countName]
      rw [secret?_setShelf, Shelf.get?_store, hstamped]
      exact if_pos rfl
    · exact agreeExcept_store c ns _ (by simp [secret?]) _ _

/-- A replacement that was answered with a secret replaced one of the same version. -/
theorem perform_update_ok {c c' : Cluster φ} {ns : String} {secret stored : Secret}
    (h : c.perform (.update ns secret) = (.ok stored, c')) :
    stored = (c.shelf ns).stamped secret ∧
      (∃ replaced, c.secret? ns secret.name = some replaced ∧
        Shelf.upToDate secret replaced = true) ∧
      c'.secret? ns stored.name = some stored ∧ AgreeExcept ns (· = stored.name) c c' := by
  simp only [perform, Shelf.update] at h
  split at h
  · rename_i stored' s hupdate
    split at hupdate
    · cases hupdate
    · rename_i replaced hget
      split at hupdate
      · rename_i hversion
        obtain ⟨hok, rfl⟩ := Prod.mk.inj hupdate
        obtain rfl := Except.ok.inj hok
        obtain ⟨hok, rfl⟩ := Prod.mk.inj h
        obtain rfl := Except.ok.inj hok
        refine ⟨rfl, ⟨replaced, hget, hversion⟩, ?_, ?_⟩
        · rw [secret?_setShelf, Shelf.get?_store]
          exact if_pos rfl
        · exact agreeExcept_store c ns _ (fun _ => rfl) _ _
      · cases hupdate
  · cases h

/-- A request that is not answered with a written secret changes no secret. -/
theorem agreeExcept_perform {c : Cluster φ} {r : StoreRequest} {reply : r.Reply} {c' : Cluster φ}
    (h : c.perform r = (reply, c')) (hw : StoreExchange.written? ⟨r, reply⟩ = none) :
    AgreeExcept (callOf r).ns (fun _ => False) c c' := by
  cases r with
  | get ns name =>
    obtain rfl : c = c' := congrArg Prod.snd h
    exact .refl _ _ c
  | list ns filter =>
    obtain rfl : c = c' := congrArg Prod.snd h
    exact .refl _ _ c
  | create ns secret =>
    simp only [perform, Shelf.create_eq] at h
    split at h
    · -- The name is taken: at most the counter of generated names has moved.
      obtain ⟨-, rfl⟩ := Prod.mk.inj h
      exact agreeExcept_setShelf c ns _ fun n _ => by rw [Shelf.secrets_countName]; rfl
    · obtain ⟨rfl, -⟩ := Prod.mk.inj h
      cases hw
  | update ns secret =>
    simp only [perform] at h
    split at h
    · obtain ⟨rfl, -⟩ := Prod.mk.inj h
      cases hw
    · obtain ⟨-, rfl⟩ := Prod.mk.inj h
      exact .refl _ _ c

/-! ### Requests with their hooks -/

/-- The state in which the last of some steps took effect, after what other writers did right
before it; without steps, the state in which they would have begun. -/
def lastEntered (start : Cluster φ) (steps : List (Step storeInterface (Cluster φ))) : Cluster φ :=
  match steps.getLast? with
  | some x => (x.before.enter (callOf x.request)).2
  | none => start

/-- A request that is not answered with a written secret changes no secret, whether its hook made
it fail or it was carried out. -/
theorem agreeExcept_of_unwritten {c c' : Cluster StoreError} {r : StoreRequest} {reply : r.Reply}
    (h : storeServer r c = (reply, c')) (hw : StoreExchange.written? ⟨r, reply⟩ = none) :
    AgreeExcept (callOf r).ns (fun _ => False) (c.enter (callOf r)).2 c' := by
  rcases storeServer_cases c r with ⟨e, hs⟩ | hs
  · obtain rfl : (c.enter (callOf r)).2 = c' := congrArg Prod.snd (hs.symm.trans h)
    exact .refl _ _ _
  · exact agreeExcept_perform (hs.symm.trans h) hw

/-- If none of some steps was answered with a written secret, the last of them changed no secret. -/
theorem agreeExcept_of_steps {steps : List (Step storeInterface (Cluster StoreError))} {ns : String}
    (hserver : ∀ x ∈ steps, storeServer x.request x.before = (x.reply, x.after))
    (hns : ∀ x ∈ steps, (callOf x.request).ns = ns)
    (hw : ∀ x ∈ steps, StoreExchange.written? x.toExchange = none) (start : Cluster StoreError) :
    AgreeExcept ns (fun _ => False) (lastEntered start steps)
      ((steps.getLast?.map Step.after).getD start) := by
  unfold lastEntered
  cases hlast : steps.getLast? with
  | none => exact .refl _ _ start
  | some x =>
    have hx : x ∈ steps := List.mem_of_getLast? hlast
    have hagree := agreeExcept_of_unwritten (hserver x hx) (hw x hx)
    rw [hns x hx] at hagree
    exact hagree

/-- A secret that was read is the one that was stored after the hook of the call, and reading it
changed nothing. -/
theorem get_of_storeServer {c c' : Cluster StoreError} {ns name : String} {secret : Secret}
    (h : storeServer (.get ns name) c = (.ok secret, c')) :
    (c.enter (callOf (.get ns name))).2.secret? ns name = some secret ∧
      c' = (c.enter (callOf (.get ns name))).2 := by
  rcases storeServer_cases c (.get ns name) with ⟨e, hs⟩ | hs
  · cases hs.symm.trans h
  · rw [perform_get] at hs
    obtain ⟨hreply, hstate⟩ := Prod.mk.inj (hs.symm.trans h)
    refine ⟨?_, hstate.symm⟩
    split at hreply
    · rename_i stored hstored
      rw [hstored, Except.ok.inj hreply]
    · cases hreply

/-- A written secret was not answered by a hook. -/
theorem perform_of_written {c c' : Cluster StoreError} {r : StoreRequest} {reply : r.Reply}
    {secret : Secret} (h : storeServer r c = (reply, c'))
    (hw : StoreExchange.written? ⟨r, reply⟩ = some secret) :
    (c.enter (callOf r)).2.perform r = (reply, c') := by
  rcases storeServer_cases c r with ⟨e, hs⟩ | hs
  · -- A hook that makes a request fail answers no secret.
    obtain rfl : failed e r = reply := congrArg Prod.fst (hs.symm.trans h)
    cases r <;> cases hw
  · exact hs.symm.trans h

/-- A written secret has the labels and the annotations that were sent. -/
theorem sameTags_of_create {c c' : Cluster StoreError} {ns : String} {secret stored : Secret}
    (h : storeServer (.create ns secret) c = (.ok stored, c')) :
    stored.metadata.labels = secret.metadata.labels ∧
      stored.metadata.annotations = secret.metadata.annotations := by
  obtain ⟨rfl, -⟩ := perform_create_ok (perform_of_written h rfl)
  exact ⟨rfl, rfl⟩

theorem sameTags_of_update {c c' : Cluster StoreError} {ns : String} {secret stored : Secret}
    (h : storeServer (.update ns secret) c = (.ok stored, c')) :
    stored.metadata.labels = secret.metadata.labels ∧
      stored.metadata.annotations = secret.metadata.annotations := by
  obtain ⟨rfl, -⟩ := perform_update_ok (perform_of_written h rfl)
  exact ⟨rfl, rfl⟩

/-! ### Two requests that differ in contents only -/

/-- Two answers to a write: the same failure in the same state, or two successes. -/
inductive SameFate : Except StoreError Secret × Cluster StoreError →
    Except StoreError Secret × Cluster StoreError → Prop
  | failed (e : StoreError) (c : Cluster StoreError) : SameFate (.error e, c) (.error e, c)
  | written (stored stored' : Secret) (c c' : Cluster StoreError) :
      SameFate (.ok stored, c) (.ok stored', c')

/-- Creating depends on the wanted name and the prefix. -/
theorem sameFate_create {secret secret' : Secret} (hname : secret.name = secret'.name)
    (hgen : secret.metadata.generateName = secret'.metadata.generateName) (ns : String)
    (c : Cluster StoreError) :
    SameFate (storeServer (.create ns secret) c) (storeServer (.create ns secret') c) := by
  have hcall : callOf (.create ns secret) = callOf (.create ns secret') := by
    show (⟨.create, ns, creationName secret⟩ : Call) = ⟨.create, ns, creationName secret'⟩
    unfold creationName
    rw [hname, hgen]
  -- The hooks see the same call, so they do the same before it.
  unfold storeServer
  rw [hcall]
  generalize c.enter (callOf (.create ns secret')) = entered
  obtain ⟨failure, c⟩ := entered
  cases failure with
  | some e => exact .failed e c
  | none =>
    have hfor : (c.shelf ns).nameFor secret = (c.shelf ns).nameFor secret' := by
      unfold Shelf.nameFor
      rw [hname, hgen]
    have hcount : (c.shelf ns).countName secret = (c.shelf ns).countName secret' := by
      unfold Shelf.countName
      rw [hname]
    simp only [perform, Shelf.create_eq, hfor, hcount]
    split
    · exact .failed _ _
    · exact .written _ _ _ _

/-- Replacing depends on the name and the version. -/
theorem sameFate_update {secret secret' : Secret} (hname : secret.name = secret'.name)
    (hversion : secret.metadata.resourceVersion = secret'.metadata.resourceVersion) (ns : String)
    (c : Cluster StoreError) :
    SameFate (storeServer (.update ns secret) c) (storeServer (.update ns secret') c) := by
  have hcall : callOf (.update ns secret) = callOf (.update ns secret') := by
    show (⟨.update, ns, secret.name⟩ : Call) = ⟨.update, ns, secret'.name⟩
    rw [hname]
  unfold storeServer
  rw [hcall]
  generalize c.enter (callOf (.update ns secret')) = entered
  obtain ⟨failure, c⟩ := entered
  cases failure with
  | some e => exact .failed e c
  | none =>
    simp only [perform, Shelf.update, hname]
    cases (c.shelf ns).secrets.get? secret'.name with
    | none => exact .failed _ _
    | some stored =>
      simp only [Shelf.upToDate_congr hversion]
      cases Shelf.upToDate secret' stored with
      | true => exact .written _ _ _ _
      | false => exact .failed _ _

end Cluster

/-! ### Answers about the secret that was asked for -/

/-- A call that, unless it fails, is answered with the secret that it is about: the one of the name
that was read or sent, or one of some name if none was sent. -/
def StoreExchange.Faithful : StoreExchange → Prop
  | ⟨.get _ name, .ok secret⟩ => secret.name = name
  | ⟨.create _ sent, .ok secret⟩ => secret.name ≠ "" ∧ (sent.name ≠ "" → secret.name = sent.name)
  | ⟨.update _ sent, .ok secret⟩ => secret.name = sent.name
  | _ => True

theorem generatedNumber_ne_nil (n : Nat) : (generatedNumber n).toList ≠ [] := by
  unfold generatedNumber
  rw [String.toList_ofList]
  intro h
  exact Nat.toDigits_ne_nil (List.append_eq_nil_iff.1 h).2

/-- A secret is created under some name, and under its own if it has one. -/
theorem Shelf.nameFor_spec (s : Shelf) (secret : Secret) :
    s.nameFor secret ≠ "" ∧ (secret.name ≠ "" → s.nameFor secret = secret.name) := by
  unfold nameFor
  by_cases hempty : secret.name.isEmpty = true
  · rw [if_pos hempty]
    refine ⟨fun h => ?_, fun hne => absurd (String.isEmpty_iff.1 hempty) hne⟩
    have htext := congrArg String.toList h
    rw [String.toList_append] at htext
    exact generatedNumber_ne_nil _ (List.append_eq_nil_iff.1 htext).2
  · rw [if_neg hempty]
    exact ⟨fun h => hempty (String.isEmpty_iff.2 h), fun _ => rfl⟩

/-- A cluster in memory answers with the secrets that it is asked for. -/
theorem Cluster.faithful_storeServer {c c' : Cluster StoreError} (hc : c.Named) {r : StoreRequest}
    {reply : r.Reply} (h : storeServer r c = (reply, c')) : StoreExchange.Faithful ⟨r, reply⟩ := by
  cases r with
  | list ns filter => cases reply <;> exact trivial
  | get ns name =>
    cases reply with
    | error e => exact trivial
    | ok secret =>
      obtain ⟨hget, -⟩ := get_of_storeServer h
      exact (named_enter hc _).name_eq hget
  | create ns sent =>
    cases reply with
    | error e => exact trivial
    | ok secret =>
      obtain ⟨rfl, -⟩ := perform_create_ok (perform_of_written h rfl)
      exact Shelf.nameFor_spec _ sent
  | update ns sent =>
    cases reply with
    | error e => exact trivial
    | ok secret =>
      obtain ⟨rfl, -⟩ := perform_update_ok (perform_of_written h rfl)
      rfl

/-- So all calls of a run on it are faithful. -/
theorem Cluster.faithful_exchanges {α : Type} {c : Cluster StoreError} (hc : c.Named)
    (p : StoreProgram α) : ∀ x ∈ p.exchanges storeServer c, StoreExchange.Faithful x := by
  have hkeep : ∀ (r : StoreRequest) (c : Cluster StoreError), c.Named →
      (storeServer r c).2.Named := fun r _ hc => named_storeServer hc r
  intro x hx
  obtain ⟨step, hstep, rfl⟩ := List.mem_map.1 hx
  exact faithful_storeServer (Program.invariant_of_mem_steps hkeep hc hstep)
    (Program.server_of_mem_steps storeServer hstep)

end SecretSync
