import SecretSync.Proofs.Binding.Payload
import SecretSync.Proofs.Cluster.Requests

/-!
# `SecretSync.Proofs.Binding.Effect`: what a sync does to a cluster

Other writers may act before every call of a sync. `sync_effect` says what
remains for the sync itself. Take the state right before its last call takes
effect. A sync that ends well changes one secret of that state: the one that it
answers, which is the wanted secret put over what was stored there right then.
A sync that fails changes no secret of that state.

The first part rests on `Accounts`, the last call and no other is a write, and
on `Shelf.Later.eq_of_upToDate`: a replacement is accepted only if what was
read is still there.
-/

set_option autoImplicit false

namespace SecretSync

/-- The name of the secret that a sync of a target writes: the recorded name if it is used, else
the fixed name, else a name that begins with the prefix. -/
inductive DeploymentTarget.Names (t : DeploymentTarget) (recreate : Bool) (name : String) : Prop
  | recorded (h : recreate = false) (hp : t.recordedName = some name) (hn : name ≠ "")
  | fixed (h : recreate = true ∨ t.recordedName.getD "" = "") (hn : t.spec.name ≠ "")
      (hname : name = t.spec.name)
  | generated (h : recreate = true ∨ t.recordedName.getD "" = "") (hn : t.spec.name = "")
      (suffix : String) (hname : name = t.effectiveGenerateName ++ suffix)

namespace DeploymentTarget

variable (t : DeploymentTarget) (recreate : Bool)

/-- The name to write, by cases. -/
theorem effectiveName_cases :
    (recreate = false ∧ t.recordedName = some (t.effectiveName recreate) ∧
      t.effectiveName recreate ≠ "") ∨
    ((recreate = true ∨ t.recordedName.getD "" = "") ∧
      t.effectiveName recreate = t.spec.name) := by
  cases recreate with
  | true => exact .inr ⟨.inl rfl, rfl⟩
  | false =>
    unfold effectiveName previousName
    cases t.recordedName with
    | none => exact .inr ⟨.inr rfl, rfl⟩
    | some name =>
      by_cases hn : name = ""
      · subst hn
        exact .inr ⟨.inr rfl, rfl⟩
      · have hused : (some name).filter (!·.isEmpty) = some name := by simp [hn]
        rw [hused]
        exact .inl ⟨rfl, rfl, hn⟩

variable {t recreate}

/-- A recorded name is the one to write. -/
theorem effectiveName_of_recorded {name : String} (h : t.recordedName = some name)
    (hne : name ≠ "") : t.effectiveName false = name := by
  rcases effectiveName_cases t false with ⟨-, hname, -⟩ | ⟨hnone, -⟩
  · exact Option.some.inj (hname.symm.trans h)
  · rw [h] at hnone
    simp [hne] at hnone

theorem names_effectiveName (hn : t.effectiveName recreate ≠ "") :
    t.Names recreate (t.effectiveName recreate) := by
  rcases effectiveName_cases t recreate with ⟨hr, hp, hne⟩ | ⟨hr, hname⟩
  · exact .recorded hr hp hne
  · exact .fixed hr (hname ▸ hn) hname

theorem names_generated (hn : t.effectiveName recreate = "") (suffix : String) :
    t.Names recreate (t.effectiveGenerateName ++ suffix) := by
  rcases effectiveName_cases t recreate with ⟨-, -, hne⟩ | ⟨hr, hname⟩
  · exact absurd hn hne
  · exact .generated hr (hname ▸ hn) suffix rfl

end DeploymentTarget

namespace Handler

variable {h : Handler} {t : DeploymentTarget} {d : DesiredSecret}

/-! ### The effect of the last call -/

/-- One secret was written: the prepared one, under its name and with the next version. It was
prepared over what was stored at its place, and nothing else has changed. -/
structure Effect (h : Handler) (d : DesiredSecret) (pre post : Cluster StoreError) (s : Secret) :
    Prop where
  elsewhere : pre.AgreeExcept h.target.ns (· = s.name) post
  stored : post.secret? h.target.ns s.name = some s
  name : (d.name ≠ "" ∧ s.name = d.name) ∨
    (d.name = "" ∧ ∃ suffix, s.name = d.generateName ++ suffix)
  content : ∃ p, h.prepared d (pre.secret? h.target.ns s.name) = .ok p ∧
    s = { p with metadata := { p.metadata with
      name := some s.name
      resourceVersion := some (toString ((pre.shelf h.target.ns).version + 1)) } }

theorem effect_of_create [h.marker.Tagging] {pre post : Cluster StoreError} {secret s : Secret}
    (hp : h.prepared d none = .ok secret)
    (hc : pre.perform (.create h.target.ns secret) = (.ok s, post)) :
    Effect h d pre post s := by
  obtain ⟨hs, hfree, hstored, hagree⟩ := Cluster.perform_create_ok hc
  obtain ⟨hsecret, hgen, hns⟩ := name_of_prepared_none hp
  have hname : s.name = (pre.shelf h.target.ns).nameFor secret := by rw [hs]; rfl
  refine ⟨hagree, hstored, ?_, secret, ?_, ?_⟩
  · -- The name is the wanted one, or the prefix with a number behind it.
    rw [hname, Shelf.nameFor, hsecret, hgen]
    split
    · rename_i hempty
      exact .inr ⟨String.isEmpty_iff.1 hempty, _, rfl⟩
    · rename_i hne
      exact .inl ⟨fun he => hne (String.isEmpty_iff.2 he), rfl⟩
  · -- The place was free, so the secret was prepared over what was there.
    show Handler.prepared _ d (pre.secret? h.target.ns s.name) = .ok secret
    rw [hfree]
    exact hp
  · rw [hname, hs]
    show (pre.shelf h.target.ns).stamped ((pre.shelf h.target.ns).named h.target.ns secret) = _
    unfold Shelf.stamped Shelf.named
    rw [← hns]

/-- A replacement of what is still stored. -/
theorem effect_of_replacement [h.marker.Tagging] {pre post : Cluster StoreError}
    {stored secret s : Secret}
    (hkept : pre.secret? h.target.ns d.name = some stored) (hstoredName : stored.name = d.name)
    (hn : d.name ≠ "") (hp : h.prepared d (some stored) = .ok secret)
    (hu : pre.perform (.update h.target.ns secret) = (.ok s, post)) :
    Effect h d pre post s := by
  obtain ⟨hs, -, hstored, hagree⟩ := Cluster.perform_update_ok hu
  obtain ⟨hkeptName, -⟩ := name_of_prepared_some hp
  have hname : secret.name = d.name := (congrArg (·.getD "") hkeptName).trans hstoredName
  have hsname : s.name = d.name := by
    rw [hs]
    exact hname
  have hsomeName : secret.metadata.name = some s.name := by
    rw [hsname]
    exact ObjectMeta.name_eq_some hname hn
  refine ⟨hagree, hstored, .inl ⟨hn, hsname⟩, secret, ?_, ?_⟩
  · show Handler.prepared _ d (pre.secret? h.target.ns s.name) = .ok secret
    rw [hsname, hkept]
    exact hp
  · rw [← hsomeName]
    exact hs

/-- A replacement of what was read takes effect only where it was read: an accepted version is an
unchanged secret. -/
theorem effect_of_update [h.marker.Tagging] {read pre post : Cluster StoreError}
    {stored secret s : Secret}
    (hread : read.Versioned) (hlater : read.Later pre) (hn : d.name ≠ "")
    (hget : read.secret? h.target.ns d.name = some stored)
    (hp : h.prepared d (some stored) = .ok secret)
    (hu : pre.perform (.update h.target.ns secret) = (.ok s, post)) :
    Effect h d pre post s := by
  obtain ⟨-, ⟨replaced, hreplaced, hdate⟩, -, -⟩ := Cluster.perform_update_ok hu
  obtain ⟨hkeptName, hkeptVersion⟩ := name_of_prepared_some hp
  have hstoredName : stored.name = d.name := (hread h.target.ns d.name stored hget).1
  have hname : secret.name = d.name := (congrArg (·.getD "") hkeptName).trans hstoredName
  rw [hname] at hreplaced
  rw [Shelf.upToDate_congr hkeptVersion] at hdate
  -- The version of what is stored is the one that was read, so it is what was read.
  obtain rfl : replaced = stored :=
    (hlater h.target.ns).eq_of_upToDate (hread h.target.ns) hget hreplaced hdate
  exact effect_of_replacement hreplaced hstoredName hn hp hu

/-! ### The effect of a sync -/

open Cluster (storeServer lastEntered)

/-- Every call of a sync goes to the namespace of the target. -/
theorem SyncCalls.namespace {h : Handler} {recreate : Bool} {data : Except ProviderError SecretData}
    {calls : List StoreExchange} {r : Except SyncError Secret}
    (hs : SyncCalls h recreate data calls r) :
    ∀ x ∈ calls, (Cluster.callOf x.request).ns = h.target.ns := by
  cases hs with
  | unavailable e => simp
  | written data calls r hw => exact hw.namespace

/-- The last steps of a write that answers `s`: a creation, or a read and a replacement of what was
read. -/
theorem last_steps {σ : Type} {steps : List (Step storeInterface σ)} {s : Secret}
    (hw : WriteCalls h d (steps.map Step.toExchange) (.ok s)) :
    (∃ earlier secret before after, h.prepared d none = .ok secret ∧
      steps = earlier ++ [⟨⟨.create h.target.ns secret, .ok s⟩, before, after⟩]) ∨
    (d.name ≠ "" ∧ ∃ earlier stored secret before after before' after',
      h.prepared d (some stored) = .ok secret ∧
      steps = earlier ++ [⟨⟨.get h.target.ns d.name, .ok stored⟩, before, after⟩,
        ⟨⟨.update h.target.ns secret, .ok s⟩, before', after'⟩]) := by
  rcases hw.of_ok with ⟨earlier, secret, hp, hcalls⟩ | ⟨hn, earlier, stored, secret, hp, hcalls⟩
  · obtain ⟨xs, ys, rfl, -, hlast⟩ := List.map_eq_append_iff.1 hcalls
    obtain ⟨x, rfl, hx⟩ := List.map_eq_singleton_iff.1 hlast
    obtain ⟨exchange, before, after⟩ := x
    obtain rfl : exchange = _ := hx
    exact .inl ⟨xs, secret, before, after, hp, rfl⟩
  · obtain ⟨xs, ys, rfl, -, hlast⟩ := List.map_eq_append_iff.1 hcalls
    obtain ⟨x, ys, rfl, hx, hlast⟩ := List.map_eq_cons_iff.1 hlast
    obtain ⟨y, rfl, hy⟩ := List.map_eq_singleton_iff.1 hlast
    obtain ⟨exchange, before, after⟩ := x
    obtain ⟨exchange', before', after'⟩ := y
    obtain rfl : exchange = _ := hx
    obtain rfl : exchange' = _ := hy
    exact .inr ⟨hn, xs, stored, secret, before, after, before', after', hp, rfl⟩

/-- What is left to a sync that answers `s` with the calls `steps`: the effect of the last of
them. -/
theorem effect_of_steps [h.marker.Tagging] {start : Cluster StoreError}
    {steps : List (Step storeInterface (Cluster StoreError))}
    (hserver : ∀ x ∈ steps, storeServer x.request x.before = (x.reply, x.after))
    (hchain : steps.IsChain fun x y => y.before = x.after)
    (hregular : ∀ x ∈ steps, x.before.Regular) {s : Secret}
    (hw : WriteCalls h d (steps.map Step.toExchange) (.ok s)) :
    ∃ last ∈ steps.getLast?, Effect h d (lastEntered start steps) last.after s := by
  rcases last_steps hw with ⟨earlier, secret, before, after, hp, rfl⟩ |
    ⟨hn, earlier, stored, secret, before, after, before', after', hp, rfl⟩
  · have hanswer := hserver ⟨⟨.create h.target.ns secret, .ok s⟩, before, after⟩ (by simp)
    rw [lastEntered, List.getLast?_concat]
    exact ⟨_, rfl, effect_of_create hp (Cluster.perform_of_written hanswer rfl)⟩
  · have hread : storeServer (.get h.target.ns d.name) before = (.ok stored, after) :=
      hserver ⟨⟨.get h.target.ns d.name, .ok stored⟩, before, after⟩ (by simp)
    have hanswer := hserver ⟨⟨.update h.target.ns secret, .ok s⟩, before', after'⟩ (by simp)
    have hbefore : before.Regular :=
      hregular ⟨⟨.get h.target.ns d.name, .ok stored⟩, before, after⟩ (by simp)
    obtain rfl : before' = after := (List.isChain_append_cons_cons.1 hchain).2.1
    rw [lastEntered, List.append_cons, List.getLast?_concat]
    -- The read happened in the state that its hook left, and it changed nothing.
    obtain ⟨hget, rfl⟩ := Cluster.get_of_storeServer hread
    obtain ⟨hentered, -⟩ := Cluster.enter_regular hbefore (Cluster.callOf (.get h.target.ns d.name))
    obtain ⟨-, hlater⟩ :=
      Cluster.enter_regular hentered (Cluster.callOf (.update h.target.ns secret))
    exact ⟨_, rfl, effect_of_update hentered.versioned hlater hn hget hp
      (Cluster.perform_of_written hanswer rfl)⟩

/-- What a sync does to a cluster, whatever other writers do before each of its calls. Let `pre` be
the state in which its last own call takes effect. A sync that ends well has changed one secret of
`pre`, the one it answers: the wanted secret, put over what `pre` held at its place and marked,
under the name and the version that the cluster gives it. `Merges` says key by key what this is. A
sync that fails has changed no secret of `pre`. -/
theorem sync_effect {c : Cluster StoreError} (hc : c.Regular) (t : DeploymentTarget)
    (provider : StoreProgram (Except ProviderError SecretData)) (recreate : Bool) :
    let h : Handler := ⟨t, .ofTags⟩
    let fetched := provider.run storeServer c
    let own := (h.write recreate fetched.result).steps storeServer fetched.state
    let pre := lastEntered fetched.state own
    let o := (h.sync provider recreate).run storeServer c
    (h.sync provider recreate).steps storeServer c = provider.steps storeServer c ++ own ∧
    (∀ s, o.result = .ok s → t.Names recreate s.name ∧
      ∃ data, fetched.result = .ok data ∧ Effect h (h.desired recreate data) pre o.state s ∧
        ∃ p version, Merges t (h.desired recreate data) (pre.secret? t.ns s.name) p ∧
          s = { p with metadata := { p.metadata with
            name := some s.name
            resourceVersion := version } }) ∧
    (∀ e, o.result = .error e → pre.AgreeExcept t.ns (fun _ => False) o.state) := by
  intro h fetched own pre o
  have hrun : o = _ := run_sync storeServer provider recreate c h
  have hresult : o.result = ((h.write recreate fetched.result).run storeServer
      fetched.state).result := by rw [hrun]
  have hstate : o.state = (own.getLast?.map Step.after).getD fetched.state := by
    rw [hrun]
    exact Program.run_state _ _ _
  have hcalls := write_calls storeServer h recreate fetched.result fetched.state
  rw [← hresult] at hcalls
  have hkeep : ∀ (r : StoreRequest) (s : Cluster StoreError), s.Regular →
      (storeServer r s).2.Regular := by
    intro r s hs
    exact Cluster.storeServer_regular hs r
  have hfetched : fetched.state.Regular := Program.invariant_run hkeep provider hc
  have hserver : ∀ x ∈ own, storeServer x.request x.before = (x.reply, x.after) := by
    intro x hx
    exact Program.server_of_mem_steps _ hx
  refine ⟨steps_sync storeServer provider recreate c h, ?_, ?_⟩
  · intro s hs
    rw [hs] at hcalls
    obtain ⟨data, hdata, hw⟩ := hcalls.of_ok
    obtain ⟨last, hend, heffect⟩ := effect_of_steps hserver (Program.steps_chain _ _ _)
      (fun x hx => Program.invariant_of_mem_steps hkeep hfetched hx) hw
    have hpost : o.state = last.after := by
      rw [hstate, Option.mem_def.1 hend]
      rfl
    rw [hpost]
    obtain ⟨p, hp, hs⟩ := heffect.content
    refine ⟨?_, data, hdata, heffect, p, _, merges_of_prepared hp, hs⟩
    rcases heffect.name with ⟨hn, hname⟩ | ⟨hn, suffix, hname⟩ <;> rw [hname]
    · exact DeploymentTarget.names_effectiveName hn
    · exact DeploymentTarget.names_generated hn suffix
  · intro e he
    rw [he] at hcalls
    rw [hstate]
    have hmem : ∀ x ∈ own, x.toExchange ∈ own.map Step.toExchange := by
      intro x hx
      exact List.mem_map_of_mem hx
    refine Cluster.agreeExcept_of_steps hserver ?_ ?_ fetched.state
    · intro x hx
      exact hcalls.namespace _ (hmem x hx)
    · intro x hx
      exact hcalls.unwritten _ (hmem x hx)

/-- A secret of another writer. -/
def rival : Secret := { metadata := { name := some "db", ns := some "app" } }

/-- A cluster in which another writer deletes the secret right before it would be replaced, and puts
a new one right before it would be created. -/
def contested : Cluster StoreError where
  shelves := ((Cluster.empty : Cluster StoreError).put rival).shelves
  hooks := [{ verb := .update, deletions := [("app", "db")] }, { verb := .create, writes := [rival] }]

theorem regular_contested : contested.Regular where
  versioned :=
    have hrival : rival.metadata.resourceVersion = none := rfl
    (Cluster.advances_put .empty hrival).versioned Cluster.versioned_empty
  hooks := by simp [contested, Hook.Unversioned, rival]

/-- Both races are lost, and the sync still ends with its secret in the cluster. -/
theorem sync_effect_contested :
    let t : DeploymentTarget := .inNamespace { name := "db" } "app" ⟨"team", "creds"⟩ ""
    let o := (sync ⟨t, .ofTags⟩ (.done (.ok .empty)) false).run storeServer contested
    ∃ s, o.result = .ok s ∧ s.name = "db" ∧ o.state.secret? "app" "db" = some s := by
  intro t o
  obtain ⟨-, hok, -⟩ := sync_effect regular_contested t (.done (.ok .empty)) false
  have hsynced : o.result.toOption.map Secret.name = some "db" := by decide +kernel
  cases hs : o.result with
  | error e => rw [hs] at hsynced; cases hsynced
  | ok s =>
    have hname : s.name = "db" := by
      rw [hs] at hsynced
      exact Option.some.inj hsynced
    obtain ⟨-, data, -, heffect, -⟩ := hok s hs
    have hstored := heffect.stored
    rw [hname] at hstored
    exact ⟨s, rfl, hname, hstored⟩

end Handler

end SecretSync
