import SecretSync.Proofs.Binding.Effect
import SecretSync.Proofs.Cluster.Namespaces

/-!
# `SecretSync.Proofs.Binding.Undisturbed`: a sync that nobody disturbs

On a cluster without hooks nobody acts between the calls of a sync. Only its
last call can be a write that succeeds, so up to that call all secrets are as
they were at the start (`sameSecrets_before`). What `Effect` says about the
state right before the last call is then true of the state at the start
(`effect_of_materialize`).

`Overlays` puts this in terms of the start alone, for a sync whose data comes
without a write: the answered secret has the wanted data over what the target
had, and every other secret stays.
-/

set_option autoImplicit false

namespace SecretSync

open StoreExchange (written?)

namespace Cluster

/-- As long as no request was answered with a written secret, all secrets are as at the start. The
induction is on the program. -/
theorem sameSecrets_before {α : Type} (p : StoreProgram α) {c : Cluster StoreError}
    (hc : c.hooks = [])
    (hw : ∀ x ∈ (p.steps storeServer c).dropLast, written? x.toExchange = none) :
    ∀ x ∈ p.steps storeServer c, x.before.hooks = [] ∧ SameSecrets c x.before := by
  induction p generalizing c with
  | done a => exact List.forall_mem_nil _
  | emit e p ih => exact ih hc hw
  | request r k ih =>
    rw [Program.steps_request] at hw ⊢
    refine List.forall_mem_cons.2 ⟨⟨hc, fun _ _ => rfl⟩, ?_⟩
    intro x hx
    -- There is a later request, so this one was not the last.
    have hne : (k (storeServer r c).1).steps storeServer (storeServer r c).2 ≠ [] :=
      List.ne_nil_of_mem hx
    rw [List.dropLast_cons_of_ne_nil hne] at hw
    obtain ⟨hhead, hrest⟩ := List.forall_mem_cons.1 hw
    obtain ⟨hhooks, hsame⟩ := ih (storeServer r c).1 (local_storeServer.inv r c hc) hrest x hx
    refine ⟨hhooks, fun ns name => ?_⟩
    exact (hsame ns name).trans (sameSecrets_of_unwritten hc rfl hhead ns name)

/-- Recording a call changes no secret of a cluster without hooks. -/
theorem sameSecrets_enter {c : Cluster StoreError} (hc : c.hooks = []) (call : Call) :
    SameSecrets c (c.enter call).2 := by
  rw [enter_of_unhooked hc]
  exact fun _ _ => rfl

theorem SameSecrets.trans {c c' c'' : Cluster StoreError} (h : SameSecrets c c')
    (h' : SameSecrets c' c'') : SameSecrets c c'' :=
  fun ns name => (h' ns name).trans (h ns name)

end Cluster

namespace Handler

open Cluster (storeServer SameSecrets)

variable {h : Handler} {d : DesiredSecret} {c : Cluster StoreError}

/-- The effect of a write that nobody disturbs, with the secrets of the start. A write without a
name finds a free place. -/
theorem effect_of_materialize [h.marker.Tagging] (hc : c.hooks = []) (hnamed : c.Named) {s : Secret}
    (hs : ((h.materialize d).run storeServer c).result = .ok s) :
    ∃ pre, SameSecrets c pre ∧ Effect h d pre ((h.materialize d).run storeServer c).state s ∧
      (d.name = "" → pre.secret? h.target.ns s.name = none) := by
  have hw := materialize_calls storeServer h d c
  rw [hs] at hw
  -- Only the last call can have written something, so every call finds the secrets of the start.
  have hbefore : ∀ x ∈ (h.materialize d).steps storeServer c,
      x.before.hooks = [] ∧ SameSecrets c x.before := by
    refine Cluster.sameSecrets_before _ hc fun x hx => hw.accounts.early x.toExchange ?_
    unfold Program.exchanges
    rw [← List.map_dropLast]
    exact List.mem_map_of_mem hx
  have hserver : ∀ x ∈ (h.materialize d).steps storeServer c,
      storeServer x.request x.before = (x.reply, x.after) ∧
        SameSecrets c (x.before.enter (Cluster.callOf x.request)).2 := by
    intro x hx
    obtain ⟨hhooks, hsame⟩ := hbefore x hx
    exact ⟨Program.server_of_mem_steps _ hx, hsame.trans (Cluster.sameSecrets_enter hhooks _)⟩
  rw [Program.run_state]
  rcases last_steps hw with ⟨earlier, secret, before, after, hp, hsteps⟩ |
    ⟨hn, earlier, stored, secret, before, after, before', after', hp, hsteps⟩ <;>
    rw [hsteps] at hserver ⊢
  · obtain ⟨hanswer, hsame⟩ :=
      hserver ⟨⟨.create h.target.ns secret, .ok s⟩, before, after⟩ (by simp)
    have hperform := Cluster.perform_of_written hanswer rfl
    obtain ⟨-, hfree, -⟩ := Cluster.perform_create_ok hperform
    rw [List.getLast?_concat]
    exact ⟨_, hsame, effect_of_create hp hperform, fun _ => hfree⟩
  · obtain ⟨hread, hsameRead⟩ :=
      hserver ⟨⟨.get h.target.ns d.name, .ok stored⟩, before, after⟩ (by simp)
    obtain ⟨hanswer, hsame⟩ :=
      hserver ⟨⟨.update h.target.ns secret, .ok s⟩, before', after'⟩ (by simp)
    -- What was read is what the start had, and it is still there when it is replaced.
    have hstored : c.secret? h.target.ns d.name = some stored :=
      (hsameRead _ _).symm.trans (Cluster.get_of_storeServer hread).1
    have heffect := effect_of_replacement ((hsame _ _).trans hstored) (hnamed.name_eq hstored) hn hp
      (Cluster.perform_of_written hanswer rfl)
    rw [List.append_cons, List.getLast?_concat]
    exact ⟨_, hsame, heffect, fun he => absurd he hn⟩

/-- What a sync has done that answers `s` and that nobody has disturbed. It has put the wanted
secret over what stood in the place of `s`, and no other secret has changed. The place has the
wanted name, or it was free. -/
structure Overlays (h : Handler) (recreate : Bool) (data : SecretData) (c c' : Cluster StoreError)
    (s : Secret) : Prop where
  name : (h.target.effectiveName recreate ≠ "" ∧ s.name = h.target.effectiveName recreate) ∨
    c.secret? h.target.ns s.name = none
  content : ∃ p version,
    h.prepared (h.desired recreate data) (c.secret? h.target.ns s.name) = .ok p ∧
    s = { p with metadata := { p.metadata with name := some s.name, resourceVersion := version } }
  secrets : ∀ ns name, c'.secret? ns name
    = if ns = h.target.ns ∧ name = s.name then some s else c.secret? ns name

theorem overlays_of_effect {recreate : Bool} {data : SecretData} {pre c' : Cluster StoreError}
    {s : Secret} (hpre : SameSecrets c pre) (heffect : Effect h (h.desired recreate data) pre c' s)
    (hfree : (h.desired recreate data).name = "" → pre.secret? h.target.ns s.name = none) :
    Overlays h recreate data c c' s where
  name := by
    rw [← hpre]
    rcases heffect.name with hname | ⟨hn, -⟩
    · exact .inl hname
    · exact .inr (hfree hn)
  content := by
    obtain ⟨p, hp, hs⟩ := heffect.content
    rw [hpre] at hp
    exact ⟨p, _, hp, hs⟩
  secrets ns name := by
    split
    · rename_i hplace
      rw [hplace.1, hplace.2]
      exact heffect.stored
    · rename_i hother
      rw [← hpre]
      by_cases hns : ns = h.target.ns
      · subst hns
        exact heffect.elsewhere.secrets name fun hname => hother ⟨rfl, hname⟩
      · unfold Cluster.secret?
        rw [heffect.elsewhere.shelves ns hns]

/-- A sync that ends well, whose provider only reads and that nobody disturbs. -/
theorem overlays_of_sync [h.marker.Tagging] (hc : c.hooks = []) (hnamed : c.Named)
    {provider : StoreProgram (Except ProviderError SecretData)} {recreate : Bool}
    (hreads : ∀ x ∈ provider.exchanges storeServer c, written? x = none) {s : Secret}
    (hs : ((h.sync provider recreate).run storeServer c).result = .ok s) :
    ∃ data, (provider.run storeServer c).result = .ok data ∧
      Overlays h recreate data c ((h.sync provider recreate).run storeServer c).state s := by
  have hsame := Cluster.sameSecrets_run provider hc hreads
  rw [run_sync] at hs ⊢
  obtain ⟨data, hdata, hwritten, hstate⟩ := of_write_ok hs
  obtain ⟨pre, hpre, heffect, hfree⟩ := effect_of_materialize (Cluster.unhooked_run hc provider)
    (Cluster.named_run hnamed provider) hwritten
  rw [← hstate] at heffect
  exact ⟨data, hdata, overlays_of_effect (hsame.trans hpre) heffect hfree⟩

namespace Overlays

variable {recreate : Bool} {data : SecretData} {c' : Cluster StoreError} {s : Secret}

/-- The wanted data is over the data that the target had. -/
theorem data_eq (ho : Overlays h recreate data c c' s) : s.data = some
    ((((c.secret? h.target.ns s.name).bind Secret.data).getD .empty).merge data) := by
  obtain ⟨p, version, hp, hs⟩ := ho.content
  have hdata : s.data = p.data := by rw [hs]
  rw [hdata, data_over_of_prepared hp]
  cases c.secret? h.target.ns s.name with
  | some target => rfl
  | none =>
    refine congrArg some (SortedMap.ext_get? fun k => ?_)
    rw [SortedMap.get?_merge]
    exact (Option.or_none).symm

/-- The target keeps the values that it has as texts. -/
theorem stringData_eq (ho : Overlays h recreate data c c' s) :
    s.stringData = (c.secret? h.target.ns s.name).bind Secret.stringData := by
  obtain ⟨p, version, hp, hs⟩ := ho.content
  obtain ⟨marked, -, rfl⟩ := markManaged_of_prepared hp
  rw [show s.stringData = _ from congrArg Secret.stringData hs]
  cases c.secret? h.target.ns s.name <;> rfl

theorem stored (ho : Overlays h recreate data c c' s) : c'.secret? h.target.ns s.name = some s := by
  rw [ho.secrets, if_pos ⟨rfl, rfl⟩]

end Overlays

end Handler

end SecretSync
