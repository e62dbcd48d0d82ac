import SecretSync.Proofs.Binding.Idempotence
import SecretSync.Proofs.Cluster.Interference

/-!
# `SecretSync.Proofs.Binding.SingleRace`: one race is always absorbed

Other writers act once while a sync goes on (`Hook.Race`), at any of its calls
or not at all. The sync has two fallbacks, and a race that makes it take one of
them is over then. So what remains is an attempt that nobody disturbs.

The proof follows the attempts. From a state of the race an update either ends
well, or it has lost its secret (`absorbs_update`); a creation of a secret that
is not there either ends well, or the race has put it there
(`absorbs_create`). Losing a secret that was there, or finding one that was
not, takes the race, and a second time there is none.

`sync_absorbs_race` is the main statement. It says that the sync ends well, and
of what its secret is made: of what the other writers have left, if they have
acted.
-/

set_option autoImplicit false

namespace SecretSync

namespace Handler

open Cluster (storeServer Racing)

variable {t : DeploymentTarget} {d : DesiredSecret} {c u : Cluster StoreError}
  {hook : Hook StoreError}

/-! ### Attempts that end well -/

/-- Calls that end with a write of `s`, prepared over what stood at its place. -/
inductive Writes (t : DeploymentTarget) (d : DesiredSecret) (s : Secret) :
    Option Secret → List StoreExchange → Prop
  | created (earlier : List StoreExchange) (sent : Secret)
      (hp : (⟨t, .ofTags⟩ : Handler).prepared d none = .ok sent)
      (hs : s.unversioned = sent.unversioned) :
      Writes t d s none (earlier ++ [⟨.create t.ns sent, .ok s⟩])
  | replaced (earlier : List StoreExchange) (old sent : Secret)
      (hp : (⟨t, .ofTags⟩ : Handler).prepared d (some old) = .ok sent)
      (hs : s.unversioned = sent.unversioned) :
      Writes t d s (some old)
        (earlier ++ [⟨.get t.ns d.name, .ok old⟩, ⟨.update t.ns sent, .ok s⟩])

theorem Writes.prepend {s : Secret} {stored : Option Secret} {calls : List StoreExchange}
    (h : Writes t d s stored calls) (first : List StoreExchange) :
    Writes t d s stored (first ++ calls) := by
  cases h with
  | created earlier sent hp hs =>
    rw [← List.append_assoc]
    exact .created _ sent hp hs
  | replaced earlier old sent hp hs =>
    rw [← List.append_assoc]
    exact .replaced _ old sent hp hs

/-- An attempt that ends well. What it has written is prepared over what the race has left at its
place, or over what was there if the race did not happen. -/
def Absorbs (t : DeploymentTarget) (d : DesiredSecret) (c : Cluster StoreError)
    (hook : Hook StoreError) (a : Attempt) : Prop :=
  ∃ s, a.result = .ok s ∧ s.name = d.name ∧
    Writes t d s ((c.raced hook a.state.hooks).secret? t.ns d.name) a.calls

theorem attempt_done (r : Except SyncFault Secret) (c : Cluster StoreError) :
    attempt (.done r) c = ⟨[], r, c⟩ := rfl

/-- An attempt that ends well ends a program that goes on only after failures. -/
theorem Absorbs.bind {p : StoreProgram (Except SyncFault Secret)}
    {f : Except SyncFault Secret → StoreProgram (Except SyncFault Secret)}
    (h : Absorbs t d c hook (attempt p u)) (hf : ∀ s, f (.ok s) = .done (.ok s)) :
    Absorbs t d c hook (attempt (p.bind f) u) := by
  obtain ⟨s, hs, hname, hw⟩ := h
  rw [attempt_bind]
  dsimp only
  rw [hs, hf, attempt_done]
  refine ⟨s, rfl, hname, ?_⟩
  rw [List.append_nil]
  exact hw

/-- Or the attempt that follows ends well. -/
theorem absorbs_bind {p : StoreProgram (Except SyncFault Secret)}
    {f : Except SyncFault Secret → StoreProgram (Except SyncFault Secret)}
    (h : Absorbs t d c hook (attempt (f (attempt p u).result) (attempt p u).state)) :
    Absorbs t d c hook (attempt (p.bind f) u) := by
  obtain ⟨s, hs, hname, hw⟩ := h
  rw [attempt_bind]
  exact ⟨s, hs, hname, hw.prepend _⟩

/-! ### The attempts of a write -/

/-- Marking accepts the wanted secret over nothing, over what stands at its place, and over what a
race would leave there. -/
structure Acceptable (t : DeploymentTarget) (d : DesiredSecret) (c : Cluster StoreError)
    (hook : Hook StoreError) : Prop where
  fresh : ∃ sent, (⟨t, .ofTags⟩ : Handler).prepared d none = .ok sent
  unraced : ∃ sent, (⟨t, .ofTags⟩ : Handler).prepared d (c.secret? t.ns d.name) = .ok sent
  raced : ∃ sent,
    (⟨t, .ofTags⟩ : Handler).prepared d ((c.interfere hook).secret? t.ns d.name) = .ok sent

theorem Acceptable.of_racing (ha : Acceptable t d c hook) (hu : Racing c hook u) :
    ∃ sent, (⟨t, .ofTags⟩ : Handler).prepared d (u.secret? t.ns d.name) = .ok sent := by
  rw [hu.secret?_eq]
  unfold Cluster.raced
  split
  · exact ha.raced
  · exact ha.unraced

/-- An update ends well, or it has lost its secret. After the race it cannot lose a secret that is
there. -/
theorem absorbs_update (ha : Acceptable t d c hook) (hrace : hook.Race) (hu : Racing c hook u)
    (hnamed : u.Named) :
    let a := attempt (update ⟨t, .ofTags⟩ d) u
    Absorbs t d c hook a ∨
      (∃ detail, a.result = .error (.secretUpdate (.notFound detail))) ∧
        Racing c hook a.state ∧ a.state.secret? t.ns d.name = none ∧
        (u.hooks = [] → u.secret? t.ns d.name = none) := by
  intro a
  have hattempt : a = _ := attempt_update ⟨t, .ofTags⟩ d u
  rw [hattempt]
  obtain ⟨read, hread, hquiet, ⟨old, hget, hold⟩ | ⟨detail, hget, hnone⟩⟩ :=
    hu.get hrace t.ns d.name
  · -- What is sent has the version that was read, so it is up to date if that is still there.
    obtain ⟨sent, hp⟩ := ha.of_racing hread
    rw [hold] at hp
    have hfaithful : StoreExchange.Faithful ⟨.get t.ns d.name, .ok old⟩ :=
      Cluster.faithful_storeServer hnamed hget
    have hname : sent.name = d.name := name_of_replacement hfaithful hp
    have hdate : Shelf.upToDate sent old = true := by
      rw [Shelf.upToDate_congr (name_of_prepared_some hp).2]
      exact Shelf.upToDate_self old
    obtain ⟨after, hupdate⟩ := hread.update hrace (hname.symm ▸ hold) hdate
    dsimp only
    rw [hget]
    dsimp only
    rw [hp]
    dsimp only
    rw [hname] at hupdate
    rcases hupdate with ⟨s, hok, hs, hleft⟩ | ⟨hwaiting, ⟨detail, hlost⟩, hracing, hgone⟩
    · rw [hok]
      refine .inl ⟨s, rfl, (Secret.name_of_unversioned hs).trans hname, ?_⟩
      dsimp only
      rw [hleft]
      exact .replaced [] old sent hp hs
    · -- The race has deleted it in between, so it was not over.
      rw [hlost]
      refine .inr ⟨⟨detail, rfl⟩, hracing, hgone, fun hooks => ?_⟩
      cases hwaiting.symm.trans (hquiet hooks).1
  · -- There was nothing to read. After the race reading changes nothing, so it was not there.
    dsimp only
    rw [hget]
    refine .inr ⟨⟨detail, rfl⟩, hread, hnone, fun hooks => ?_⟩
    exact ((hquiet hooks).2 t.ns d.name).symm.trans hnone

/-- A creation of a secret that is not there ends well, or the race has put the secret there. -/
theorem absorbs_create (ha : Acceptable t d c hook) (hrace : hook.Race) (hn : d.name ≠ "")
    (hu : Racing c hook u) (hnone : u.secret? t.ns d.name = none) :
    let a := attempt (create ⟨t, .ofTags⟩ d) u
    Absorbs t d c hook a ∨
      (∃ detail, a.result = .error (.secretUpdate (.alreadyExists detail))) ∧
        Racing c hook a.state ∧ a.state.hooks = [] ∧ a.state.secret? t.ns d.name ≠ none := by
  intro a
  obtain ⟨sent, hp⟩ := ha.fresh
  obtain ⟨hname, -, hns⟩ := name_of_prepared_none hp
  have hattempt : a = _ := (congrArg (attempt · u) (create_of_prepared hp)).trans
    (attempt_create t.ns sent _ u)
  rw [hattempt]
  dsimp only
  obtain ⟨after, ⟨s, hok, hs, hleft⟩ | ⟨⟨detail, hfound⟩, hrest⟩⟩ :=
    hu.create hrace (ObjectMeta.name_eq_some hname hn) hn hns hnone
  · rw [hok]
    refine .inl ⟨s, rfl, (Secret.name_of_unversioned hs).trans hname, ?_⟩
    dsimp only
    rw [hleft]
    exact .created [] sent hp hs
  · rw [hfound]
    exact .inr ⟨⟨detail, rfl⟩, hrest⟩

/-- So a write ends well, after at most two attempts that do not. -/
theorem absorbs_materialize (ha : Acceptable t d c hook) (hrace : hook.Race) (hn : d.name ≠ "")
    (hhooks : c.hooks = [hook]) (hnamed : c.Named) :
    Absorbs t d c hook (attempt (materialize ⟨t, .ofTags⟩ d) c) := by
  -- The first update can lose to the race, or the creation after it; whichever it is, the race is
  -- over then, and the next attempt is the last.
  have hstart : Racing c hook c := .before hhooks rfl
  have hkeeps {u : Cluster StoreError} (hu : u.Named)
      (p : StoreProgram (Except SyncFault Secret)) : (attempt p u).state.Named :=
    Cluster.named_run hu p
  rw [materialize_eq, if_neg fun he => hn (String.isEmpty_iff.1 he)]
  rcases absorbs_update ha hrace hstart hnamed with hok | ⟨⟨detail, hlost⟩, hracing, hnone, -⟩
  · exact hok.bind fun s => afterUpdate_of_settled _ d _ (by simp)
  · -- The secret is gone, or it was not there, and a creation follows.
    refine absorbs_bind ?_
    rw [hlost, afterUpdate, if_pos (lostSecret_iff.2 ⟨detail, rfl⟩), attempt_reporting]
    have hnamed' := hkeeps hnamed (update ⟨t, .ofTags⟩ d)
    generalize (attempt (update ⟨t, .ofTags⟩ d) c).state = u at hracing hnone hnamed'
    rcases absorbs_create ha hrace hn hracing hnone with
      hok | ⟨⟨detail', hfound⟩, hracing', hover, hthere⟩
    · exact hok.bind fun s => afterCreation_of_settled _ d _ (by simp)
    · -- The race has put a secret there, and nobody takes that away.
      refine absorbs_bind ?_
      rw [hfound, afterCreation, if_pos (foundSecret_iff.2 ⟨detail', rfl⟩), attempt_reporting]
      rcases absorbs_update ha hrace hracing' (hkeeps hnamed' _) with hok | ⟨-, -, -, hlast⟩
      · exact hok
      · exact absurd (hlast hover) hthere

/-! ### What is written -/

/-- Versions aside, a replacement keeps what it kept. -/
theorem Revises.unversioned {stored secret : Secret} (h : Revises d stored secret) :
    Revises d stored.unversioned secret.unversioned where
  fields := by
    have hfields := h.fields
    unfold Secret.unversioned ObjectMeta.unversioned
    dsimp only
    rw [hfields]
  data := h.data
  labels := h.labels
  annotations := h.annotations

/-- A sync that has ended well with `s`, in the state `after`. It found what `left` holds at its
place. -/
structure Absorbed (t : DeploymentTarget) (d : DesiredSecret) (left : Cluster StoreError)
    (s : Secret) (calls : List StoreExchange) (after : Cluster StoreError) : Prop where
  name : s.name = d.name
  stored : after.secret? t.ns d.name = some s
  managed : Ownership.isManagedBy t.owner s.metadata = .ok true
  data : ∀ k v, d.data.get? k = some v → (s.data.getD .empty).get? k = some v
  /-- If there was nothing, the secret was created and is the wanted one and nothing else. -/
  created : left.secret? t.ns d.name = none →
    (∃ earlier sent, calls = earlier ++ [⟨.create t.ns sent, .ok s⟩]) ∧ Starts t d s.unversioned
  /-- If there was a secret, it was replaced, and everything of it that is not wanted otherwise has
  stayed. -/
  replaced : ∀ old, left.secret? t.ns d.name = some old →
    (∃ earlier sent, calls
      = earlier ++ [⟨.get t.ns d.name, .ok old⟩, ⟨.update t.ns sent, .ok s⟩]) ∧
    Revises d old.unversioned s.unversioned

/-- The contents of what is written: versions aside, it is what was sent. -/
theorem Writes.carries {s : Secret} {stored : Option Secret} {calls : List StoreExchange}
    (h : Writes t d s stored calls) (k : String) {v : Bytes}
    (hv : d.data.get? k = some v) : (s.data.getD .empty).get? k = some v := by
  have hsent {stored : Option Secret} {sent : Secret}
      (hp : (⟨t, .ofTags⟩ : Handler).prepared d stored = .ok sent)
      (hs : s.unversioned = sent.unversioned) : (s.data.getD .empty).get? k = some v := by
    rw [Secret.data_of_unversioned hs, (sameObject_of_prepared hp).2,
      DesiredSecret.get?_data_over, hv]
    rfl
  cases h with
  | created earlier sent hp hs => exact hsent hp hs
  | replaced earlier old sent hp hs => exact hsent hp hs

theorem absorbed_of_writes {left after : Cluster StoreError} {s : Secret}
    {calls : List StoreExchange} (hname : s.name = d.name)
    (hstored : after.secret? t.ns s.name = some s)
    (hmanaged : Ownership.isManagedBy t.owner s.metadata = .ok true)
    (hw : Writes t d s (left.secret? t.ns d.name) calls) : Absorbed t d left s calls after where
  name := hname
  stored := hname ▸ hstored
  managed := hmanaged
  data k v hv := hw.carries k hv
  created hnone := by
    rw [hnone] at hw
    cases hw with
    | created earlier sent hp hs =>
      -- What is sent to be created has no version.
      have hstarts := starts_of_prepared hp
      have hsent : sent.unversioned = sent := by
        rw [hstarts.fields]
        rfl
      rw [hs, hsent]
      exact ⟨⟨earlier, sent, rfl⟩, hstarts⟩
  replaced old hold := by
    rw [hold] at hw
    cases hw with
    | replaced earlier old sent hp hs =>
      rw [hs]
      exact ⟨⟨earlier, sent, rfl⟩, (revises_of_prepared hp).unversioned⟩

/-- A run of a sync with static data is the attempt to write them. -/
theorem sync_static (h : Handler) {static : StaticData} {key : OwnerKey} {data : SecretData}
    (hdata : static.get? key = some data) (recreate : Bool) (c : Cluster StoreError) :
    let a := attempt (h.materialize (h.desired recreate data)) c
    let o := (h.sync (static.provider key) recreate).run storeServer c
    o.result = a.result.mapError h.failure ∧ o.state = a.state ∧
      (h.sync (static.provider key) recreate).exchanges storeServer c = a.calls := by
  have hprovider : static.provider key = .done (.ok data) := by
    unfold StaticData.provider
    rw [hdata]
  intro a o
  have hrun : o = _ := run_sync storeServer (static.provider key) recreate c h
  rw [hrun]
  unfold Program.exchanges
  rw [steps_sync, hprovider]
  -- The data are there without a request, so the attempt starts where the sync does.
  simp only [Program.run_done, Program.steps_done, List.nil_append, write_ok, Program.run_bind,
    Program.steps_bind, List.append_nil]
  exact ⟨rfl, rfl, rfl⟩

/-- One race is always absorbed. Take a cluster in memory with one pending hook that makes no call
fail, and that only deletes unless it fires before a read or a creation. A sync of data that is
there, under a name, succeeds if marking accepts the wanted secret over whatever it can find. It
ends with its secret under the name, managed by the owner and with all the data. Let `left` be the
cluster as the other writers have left it, or as it was if they have not acted. If `left` has no
secret of the name, the sync has created its secret, and that is the wanted one and nothing else. If
it has one, the sync has replaced it, and the rest of it has stayed; so has the rest of what the
other writers have put there.

Nothing is asked of the versions in the cluster, only that its secrets stand under their own names.
-/
theorem sync_absorbs_race (hnamed : c.Named) (hhooks : c.hooks = [hook]) (hrace : hook.Race)
    (t : DeploymentTarget) (htrim : Text.trim t.owner.toString = t.owner.toString)
    (recreate : Bool) (hn : t.effectiveName recreate ≠ "") {static : StaticData} {key : OwnerKey}
    {data : SecretData} (hdata : static.get? key = some data)
    (ha : Acceptable t (desired ⟨t, .ofTags⟩ recreate data) c hook) :
    let h : Handler := ⟨t, .ofTags⟩
    let o := (h.sync (static.provider key) recreate).run storeServer c
    let left := c.raced hook o.state.hooks
    ∃ s, o.result = .ok s ∧
      Absorbed t (h.desired recreate data) left s
        ((h.sync (static.provider key) recreate).exchanges storeServer c) o.state ∧
      ∀ (earlier : List Secret) (theirs : Secret), hook.writes = earlier ++ [theirs] →
        theirs.metadata.ns.getD Cluster.fallbackNamespace = t.ns →
        theirs.name = t.effectiveName recreate → o.state.hooks = [] →
        ∀ k v, (theirs.data.getD .empty).get? k = some v → data.get? k = none →
          (s.data.getD .empty).get? k = some v := by
  intro h o left
  obtain ⟨hresult, hstate, hcalls⟩ := sync_static h hdata recreate c
  obtain ⟨s, hs, hname, hw⟩ := absorbs_materialize ha hrace hn hhooks hnamed
  have hok : o.result = .ok s := by
    rw [hresult, hs]
    rfl
  obtain ⟨hstored, hmanaged⟩ := managed_of_sync htrim hok
  rw [← hcalls, ← hstate] at hw
  have habsorbed := absorbed_of_writes hname hstored hmanaged hw
  refine ⟨s, hok, habsorbed, ?_⟩
  intro earlier theirs hwrites hns htheirs hover k v hv hunwanted
  -- They have acted, so what was replaced is what they have written last.
  have hleft : left = c.interfere hook := by
    show Cluster.raced c hook o.state.hooks = _
    rw [hover]
    rfl
  obtain ⟨old, hold, hsame⟩ := Cluster.secret?_interfere_of_write c hwrites
  rw [hns, htheirs, ← hleft] at hold
  obtain ⟨-, hrevises⟩ := habsorbed.replaced old hold
  rw [← hsame] at hv
  exact (hrevises.data k hunwanted).trans hv

/-- What another writer puts into a cluster. -/
def theirSecret : Secret := { rival with data := some (.ofTexts (.singleton "theirs" "1")) }

/-- A cluster in which the other writer does so right before a secret would be created. -/
def crowded : Cluster StoreError where
  hooks := [{ verb := .create, writes := [theirSecret] }]

/-- The sync finds no secret and then finds one after all. It keeps what the other writer has put
there and adds its own. -/
theorem sync_absorbs_race_crowded :
    let t : DeploymentTarget := .inNamespace { name := "db" } "app" ⟨"team-a", "creds"⟩ ""
    let ours : SecretData := .ofTexts (.singleton "ours" "2")
    let static := StaticData.empty.insert ⟨"team-a", "creds"⟩ ours
    let o := (sync ⟨t, .ofTags⟩ (static.provider ⟨"team-a", "creds"⟩) false).run storeServer crowded
    ∃ s, o.result = .ok s ∧ o.state.secret? "app" "db" = some s ∧
      (s.data.getD .empty).get? "ours" = some (Text.utf8 "2") ∧
      (s.data.getD .empty).get? "theirs" = some (Text.utf8 "1") := by
  intro t ours static o
  have haccepted {e : Except MarkerError Secret} (h : e.toOption.isSome = true) :
      ∃ sent, e = .ok sent := by
    cases e with
    | error e => cases h
    | ok sent => exact ⟨sent, rfl⟩
  have ha : Acceptable t (desired ⟨t, .ofTags⟩ false ours) crowded
      { verb := .create, writes := [theirSecret] } :=
    ⟨haccepted (by decide +kernel), haccepted (by decide +kernel), haccepted (by decide +kernel)⟩
  have hnamed : crowded.Named := fun _ => Shelf.named_empty
  have hdata : static.get? ⟨"team-a", "creds"⟩ = some ours := rfl
  have hover : o.state.hooks = [] := List.isEmpty_iff.1 (by decide +kernel)
  obtain ⟨s, hok, habsorbed, htheirs⟩ := sync_absorbs_race hnamed rfl ⟨rfl, .inr (.inr rfl)⟩ t
    (by decide +kernel) false (by decide) hdata ha
  refine ⟨s, hok, habsorbed.stored, habsorbed.data "ours" _ (by decide +kernel), ?_⟩
  exact htheirs [] theirSecret rfl rfl rfl hover "theirs" _ (by decide +kernel) (by decide +kernel)

end Handler

end SecretSync
