import SecretSync.Proofs.Binding.FixedPoint
import SecretSync.Proofs.Binding.Listing
import SecretSync.Proofs.Binding.WantedTags
import SecretSync.Proofs.Command.Naming

/-!
# `SecretSync.Proofs.Binding.Idempotence`: a sync that is repeated

A sync that succeeded has stored what it prepared (`sent_of_sync`), and that is
a fixed point of preparing (`prepared_again`). So when the same target is synced
again, under the name that the secret has now and with the same data, the secret
that is read is sent back as it is.

`sync_idempotent` is the main statement, for a cluster without hooks. It does
not matter how the first sync came to its secret: created or replaced, under a
fixed, a recorded or a generated name, after fallbacks or without, and over
whatever tags stood there. The second one reads the secret and replaces it by
itself, nothing else.
-/

set_option autoImplicit false

namespace SecretSync

open StoreExchange (written?)

/-! ### Sending a secret back -/

theorem Shelf.upToDate_self (s : Secret) : upToDate s s = true := by
  unfold upToDate
  split
  · rename_i version hversion
    rw [hversion]
    exact beq_self_eq_true _
  · rfl

namespace Handler

open Cluster (storeServer SameSecrets)

variable {t : DeploymentTarget} {d : DesiredSecret} {c : Cluster StoreError}

/-- What a write does that finds its secret as it would make it: it reads the secret and replaces
it by itself. Everything else is as it was, and the secret has another version at most. -/
structure Rewrites (t : DeploymentTarget) (c : Cluster StoreError) (s s' : Secret)
    (calls : List StoreExchange) (c' : Cluster StoreError) : Prop where
  content : s'.unversioned = s.unversioned
  calls : calls = [⟨.get t.ns s.name, .ok s⟩, ⟨.update t.ns s, .ok s'⟩]
  secrets : ∀ ns name, c'.secret? ns name
    = if ns = t.ns ∧ name = s.name then some s' else c.secret? ns name

/-- An update of a stored secret that the marker takes. Nobody disturbs it, so what was prepared
takes the place of what was read. -/
theorem attempt_update_of_stored {h : Handler} [h.marker.Tagging] (hc : c.hooks = []) {s p : Secret}
    (hname : d.name = s.name) (hstored : c.secret? h.target.ns s.name = some s)
    (hp : h.prepared d (some s) = .ok p) :
    ∃ s' c', attempt (h.update d) c
        = ⟨[⟨.get h.target.ns s.name, .ok s⟩, ⟨.update h.target.ns p, .ok s'⟩], .ok s', c'⟩ ∧
      s'.unversioned = p.unversioned ∧ ∀ ns name, c'.secret? ns name
        = if ns = h.target.ns ∧ name = s.name then some s' else c.secret? ns name := by
  obtain ⟨read, hget, hread, hsame⟩ := Cluster.get_of_stored hc hstored
  obtain ⟨hkeptName, hkeptVersion⟩ := name_of_prepared_some hp
  have hsent : p.name = s.name := congrArg (·.getD "") hkeptName
  have hplace : read.secret? h.target.ns p.name = some s := by
    rw [hsent]
    exact (hsame _ _).trans hstored
  have hdate : Shelf.upToDate p s = true :=
    (Shelf.upToDate_congr hkeptVersion s).trans (Shelf.upToDate_self s)
  obtain ⟨s', c', hupdate, hcontent, hsecrets⟩ := Cluster.update_of_stored hread hplace hdate
  refine ⟨s', c', ?_, hcontent, fun ns name => ?_⟩
  · rw [← hname] at hget ⊢
    exact attempt_update_of_replies hget hp hupdate
  · rw [hsecrets, hsent]
    split
    · rfl
    · exact hsame ns name

/-- An update that would make its secret as it is sends it back. -/
theorem rewrites_of_update (hc : c.hooks = []) {s : Secret} (hname : d.name = s.name)
    (hstored : c.secret? t.ns s.name = some s)
    (hp : (⟨t, .ofTags⟩ : Handler).prepared d (some s) = .ok s) :
    ∃ s', ((update ⟨t, .ofTags⟩ d).run storeServer c).result = .ok s' ∧
      Rewrites t c s s' ((update ⟨t, .ofTags⟩ d).exchanges storeServer c)
        ((update ⟨t, .ofTags⟩ d).run storeServer c).state := by
  obtain ⟨s', c', hattempt, hcontent, hsecrets⟩ := attempt_update_of_stored hc hname hstored hp
  refine ⟨s', congrArg Attempt.result hattempt, hcontent, congrArg Attempt.calls hattempt, ?_⟩
  intro ns name
  rw [show Program.Outcome.state _ = c' from congrArg Attempt.state hattempt]
  exact hsecrets ns name

/-- A write that would make its secret as it is sends it back, and takes no fallback. -/
theorem rewrites_of_write (hc : c.hooks = []) {data : SecretData} {s : Secret} (hne : s.name ≠ "")
    (hname : t.effectiveName false = s.name) (hstored : c.secret? t.ns s.name = some s)
    (hp : (⟨t, .ofTags⟩ : Handler).prepared (desired ⟨t, .ofTags⟩ false data) (some s) = .ok s) :
    let h : Handler := ⟨t, .ofTags⟩
    let written := (h.write false (.ok data)).run storeServer c
    (∃ s', written.result = .ok s' ∧
      Rewrites t c s s' ((h.write false (.ok data)).exchanges storeServer c) written.state) ∧
    ∀ lost, fallbackCount lost written.events = 0 := by
  intro h written
  have hn : (h.desired false data).name ≠ "" := fun he => hne (hname.symm.trans he)
  obtain ⟨s', hresult, hrewrites⟩ :=
    rewrites_of_update hc (d := h.desired false data) hname hstored hp
  obtain ⟨hrun, hexchanges⟩ := run_materialize_of_kept storeServer hn (by rw [hresult]; rfl)
  have hwritten : written = ⟨.ok s', ((h.update (h.desired false data)).run storeServer c).events,
      ((h.update (h.desired false data)).run storeServer c).state⟩ := by
    show (h.write false (.ok data)).run storeServer c = _
    rw [write_ok, Program.run_bind, hrun, hresult]
    simp only [Program.run_done, List.append_nil]
    rfl
  have hcalls : (h.write false (.ok data)).exchanges storeServer c
      = (h.update (h.desired false data)).exchanges storeServer c := by
    rw [exchanges_write, hexchanges]
  rw [hwritten, hcalls]
  exact ⟨⟨s', rfl, hrewrites⟩, fun lost => fallbackCount_update storeServer lost c⟩

/-- So does a sync whose provider only reads. -/
theorem rewrites_of_sync (hc : c.hooks = []) {data : SecretData} {s : Secret} (hne : s.name ≠ "")
    (hname : t.effectiveName false = s.name) (hstored : c.secret? t.ns s.name = some s)
    (hp : (⟨t, .ofTags⟩ : Handler).prepared (desired ⟨t, .ofTags⟩ false data) (some s) = .ok s)
    {provider : StoreProgram (Except ProviderError SecretData)}
    (hdata : (provider.run storeServer c).result = .ok data)
    (hreads : ∀ x ∈ provider.exchanges storeServer c, written? x = none) :
    let h : Handler := ⟨t, .ofTags⟩
    let o := (h.sync provider false).run storeServer c
    ∃ s' own events, o.result = .ok s' ∧ Rewrites t c s s' own o.state ∧
      (h.sync provider false).exchanges storeServer c = provider.exchanges storeServer c ++ own ∧
      o.events = (provider.run storeServer c).events ++ events ∧
      ∀ lost, fallbackCount lost events = 0 := by
  intro h o
  have hsame := Cluster.sameSecrets_run provider hc hreads
  have hexchanges := exchanges_sync storeServer provider false c h
  have hrun : o = _ := run_sync storeServer provider false c h
  rw [hexchanges, hrun]
  dsimp only
  rw [hdata]
  -- The write starts where the provider ended, and there the secrets are the same.
  obtain ⟨⟨s', hresult, hrewrites⟩, hfallbacks⟩ := rewrites_of_write
    (Cluster.unhooked_run hc provider) hne hname ((hsame _ _).trans hstored) hp
  refine ⟨s', _, _, hresult, ⟨hrewrites.content, hrewrites.calls, fun ns name => ?_⟩, rfl, rfl, ?_⟩
  · rw [hrewrites.secrets, hsame]
  · intro lost
    rw [fallbackCount_append, hfallbacks, fallbackCount_syncReport]

/-! ### The whole statement -/

/-- A sync that ends well has written some name, if all secrets stand under their own names. -/
theorem name_ne_empty_of_sync (hc : c.Named)
    {provider : StoreProgram (Except ProviderError SecretData)} {recreate : Bool} {s : Secret}
    (hs : ((sync ⟨t, .ofTags⟩ provider recreate).run storeServer c).result = .ok s) :
    s.name ≠ "" := by
  have hcalls := write_calls storeServer ⟨t, .ofTags⟩ recreate (provider.run storeServer c).result
    (provider.run storeServer c).state
  rw [run_sync] at hs
  rw [show (Program.run _ _ _).result = _ from hs] at hcalls
  obtain ⟨data, -, hw⟩ := hcalls.of_ok
  have hfetched := Cluster.named_run hc provider
  exact (hw.written_name (Cluster.faithful_exchanges hfetched _)).1

/-- Syncing again changes nothing but the version. Take any sync of a target that ended well, with
the secret `s`, on a cluster in memory without hooks. Sync the same target once more, with the name
of `s` as the recorded one and with the same data, which the provider gets without a write. Then
this sync ends well too. After what its provider does it reads `s` and replaces it by itself, and
that is accepted; it takes no fallback. What it answers and stores is `s` with another version, and
no other secret has changed.

The owner needs a key that reads back as it is written. That it holds no delimiter need not be said,
for otherwise the first sync would have been refused. Every cluster that was made by puts, deletions
and requests is `Named`; without it the secret might have no name to record. -/
theorem sync_idempotent {c : Cluster StoreError} (hc : c.hooks = []) (hnamed : c.Named)
    (t : DeploymentTarget) (htrim : Text.trim t.owner.toString = t.owner.toString)
    (provider provider' : StoreProgram (Except ProviderError SecretData)) (recreate : Bool)
    {s : Secret} (hs : ((sync ⟨t, .ofTags⟩ provider recreate).run storeServer c).result = .ok s) :
    let first := (sync ⟨t, .ofTags⟩ provider recreate).run storeServer c
    let h : Handler := ⟨{ t with recordedName := some s.name }, .ofTags⟩
    let fetched := provider'.run storeServer first.state
    let second := (h.sync provider' false).run storeServer first.state
    fetched.result = (provider.run storeServer c).result →
    (∀ x ∈ provider'.exchanges storeServer first.state, written? x = none) →
    ∃ s' events, second.result = .ok s' ∧ s'.unversioned = s.unversioned ∧
      (h.sync provider' false).exchanges storeServer first.state
        = provider'.exchanges storeServer first.state ++
            [⟨.get t.ns s.name, .ok s⟩, ⟨.update t.ns s, .ok s'⟩] ∧
      second.events = fetched.events ++ events ∧ (∀ lost, fallbackCount lost events = 0) ∧
      ∀ ns name, second.state.secret? ns name
        = if ns = t.ns ∧ name = s.name then some s' else first.state.secret? ns name := by
  intro first h fetched second hsame hreads
  obtain ⟨hstored, data, stored, sent, hdata, hp, hdelivers⟩ := sent_of_sync hs
  have hne := name_ne_empty_of_sync hnamed hs
  have hname : h.target.effectiveName false = s.name :=
    DeploymentTarget.effectiveName_of_recorded rfl hne
  -- The first sync stored what it prepared, so preparing over it again gives it back.
  have hagain : h.prepared (h.desired false data) (some s) = .ok s :=
    prepared_again htrim hp rfl rfl rfl hdelivers.labels hdelivers.annotations hdelivers.data
  obtain ⟨s', own, events, hresult, hrewrites, hexchanges, hevents, hfallbacks⟩ :=
    rewrites_of_sync (Cluster.unhooked_run hc _) hne hname hstored hagain
      (hsame.trans hdata) hreads
  obtain rfl := hrewrites.calls
  exact ⟨s', events, hresult, hrewrites.content, hexchanges, hevents, hfallbacks,
    hrewrites.secrets⟩

/-- A secret whose references were written by hand and that its spec wants another manager for is
synced twice. The first sync writes the references anew, and the second one leaves them. -/
theorem sync_idempotent_handTagged :
    let first := (sync ⟨handTaggedTarget, .ofTags⟩ (.done (.ok .empty)) false).run storeServer
      (Cluster.empty.put handTagged)
    ∃ s s', first.result = .ok s ∧
      (Ownership.ownershipTags s.metadata).2.2 = some "x,team-b/creds,team-a/creds" ∧
      ((sync ⟨{ handTaggedTarget with recordedName := some s.name }, .ofTags⟩ (.done (.ok .empty))
        false).run storeServer first.state).result = .ok s' ∧ s'.unversioned = s.unversioned := by
  intro first
  have htags : first.result.toOption.map (Ownership.ownershipTags ·.metadata)
      = some (some "true", some "team-a/creds", some "x,team-b/creds,team-a/creds") := by
    decide +kernel
  cases hs : first.result with
  | error e => rw [hs] at htags; cases htags
  | ok s =>
    rw [hs] at htags
    obtain ⟨s', -, hresult, hcontent, -⟩ := sync_idempotent (c := Cluster.empty.put handTagged) rfl
      (Cluster.named_put Cluster.named_empty _) handTaggedTarget (by decide +kernel)
      (.done (.ok .empty)) (.done (.ok .empty)) false hs rfl (List.forall_mem_nil _)
    have hreferences : Ownership.ownershipTags s.metadata = _ := Option.some.inj htags
    exact ⟨s, s', rfl, by rw [hreferences], hresult, hcontent⟩

end Handler

end SecretSync
