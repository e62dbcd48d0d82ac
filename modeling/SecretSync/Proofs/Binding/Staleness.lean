import SecretSync.Proofs.Binding.Reads
import SecretSync.Proofs.Cluster.Namespaces
import SecretSync.Proofs.Command.Naming

/-!
# `SecretSync.Proofs.Binding.Staleness`: names that are written and names that are stale

A sync works out a name to write, and the store completes it if it is a prefix.
Looking for a stale secret goes the other way: it takes the name of a secret
that was written and asks whether it is still wanted. Whoever deletes stale
secrets would delete fresh ones if the two did not fit together.

`DeploymentTarget.Allows` says which names are wanted, and
`DeploymentTarget.Names`, of which `names_of_sync` says that it holds of every
secret that a sync ends with, how a name comes about. The two meet in
`Names.allows`, where nothing about a store is left.

`getStale_agrees` is the main statement.
-/

set_option autoImplicit false

namespace SecretSync

/-! ### Names -/

namespace DeploymentTarget

variable {t : DeploymentTarget} {recreate : Bool} {name : String}

/-- A name that is wanted: the fixed one, or any that begins with the wanted prefix if none is
fixed. -/
def Allows (t : DeploymentTarget) (name : String) : Prop :=
  if t.spec.name = "" then t.spec.generateName.toList <+: name.toList else name = t.spec.name

theorem corresponds_iff (t : DeploymentTarget) (name : String) :
    t.corresponds name = true ↔ t.Allows name := by
  unfold corresponds nameCorresponds Allows
  by_cases hn : t.spec.name = ""
  · simp [hn, List.isPrefixOf_iff_prefix]
  · simp [hn]

/-- The recorded name, if there is one and it is no longer wanted. -/
structure Outdated (t : DeploymentTarget) (name : String) : Prop where
  recorded : t.recordedName = some name
  nonempty : name ≠ ""
  unwanted : ¬t.Allows name

/-- What a generated name begins with itself begins with the wanted prefix. If none is wanted it
begins with a prefix all the same, and that is why the two are not the same text. -/
theorem generateName_prefix (t : DeploymentTarget) :
    t.spec.generateName.toList <+: t.effectiveGenerateName.toList := by
  unfold effectiveGenerateName
  split
  · rename_i hnone
    rw [String.isEmpty_iff.1 hnone]
    exact List.nil_prefix
  · exact List.prefix_rfl

/-- The recorded name if it is used. -/
theorem Names.eq_recorded (h : t.Names recreate name) (hr : recreate = false)
    (hp : t.recordedName.getD "" ≠ "") : t.recordedName = some name := by
  have hunused : ¬(recreate = true ∨ t.recordedName.getD "" = "") := by simp [hr, hp]
  cases h with
  | recorded _ hname _ => exact hname
  | fixed h => exact absurd h hunused
  | generated h => exact absurd h hunused

/-- A name that did not come from the record is wanted. -/
theorem Names.allows (h : t.Names recreate name)
    (hp : recreate = true ∨ t.recordedName.getD "" = "") : t.Allows name := by
  unfold Allows
  cases h with
  | recorded hr hname hn => simp [hr, hname, hn] at hp
  | fixed _ hn hname =>
    rw [if_neg hn]
    exact hname
  | generated _ hn suffix hname =>
    -- The store has put a number behind the prefix, which leaves what the name begins with.
    rw [if_pos hn, hname, String.toList_append]
    exact t.generateName_prefix.trans (List.prefix_append _ _)

end DeploymentTarget

/-! ### The name of a secret that a sync ends with -/

/-- A creation without a name is answered, unless it fails, with a completed prefix. -/
def StoreExchange.Completes : StoreExchange → Prop
  | ⟨.create _ sent, .ok secret⟩ => sent.name = "" →
      ∃ suffix, secret.name = sent.metadata.generateName.getD "" ++ suffix
  | _ => True

namespace Cluster

theorem completes_storeServer {c c' : Cluster StoreError} {r : StoreRequest} {reply : r.Reply}
    (h : storeServer r c = (reply, c')) : StoreExchange.Completes ⟨r, reply⟩ := by
  cases r with
  | get ns name => cases reply <;> exact trivial
  | list ns filter => cases reply <;> exact trivial
  | update ns sent => cases reply <;> exact trivial
  | create ns sent =>
    cases reply with
    | error e => exact trivial
    | ok secret =>
      intro hname
      obtain ⟨rfl, -⟩ := perform_create_ok (perform_of_written h rfl)
      exact ⟨_, if_pos (String.isEmpty_iff.2 hname)⟩

theorem completes_exchanges {α : Type} (c : Cluster StoreError) (p : StoreProgram α) :
    ∀ x ∈ p.exchanges storeServer c, StoreExchange.Completes x := by
  intro x hx
  obtain ⟨step, hstep, rfl⟩ := List.mem_map.1 hx
  exact completes_storeServer (Program.server_of_mem_steps storeServer hstep)

/-- Reading changes nothing once the hook of the call has fired, also if that makes it fail. -/
theorem storeServer_get_state (c : Cluster StoreError) (ns name : String) :
    (storeServer (.get ns name) c).2 = (c.enter (callOf (.get ns name))).2 := by
  rcases storeServer_cases c (.get ns name) with ⟨e, h⟩ | h <;> rw [h]
  rw [perform_get]

end Cluster

namespace Handler

open Cluster (storeServer lastEntered)

variable {t : DeploymentTarget} {c : Cluster StoreError}

theorem WriteCalls.generated_name {d : DesiredSecret} {calls : List StoreExchange} {s : Secret}
    (hw : WriteCalls ⟨t, .ofTags⟩ d calls (.ok s)) (hcompletes : ∀ x ∈ calls, x.Completes)
    (hn : d.name = "") : ∃ suffix, s.name = d.generateName ++ suffix := by
  rcases hw.of_ok with ⟨earlier, secret, hp, rfl⟩ | ⟨hne, -⟩
  · have hcompleted : secret.name = "" →
        ∃ suffix, s.name = secret.metadata.generateName.getD "" ++ suffix :=
      hcompletes ⟨.create t.ns secret, .ok s⟩ (by simp)
    obtain ⟨hname, hgenerate, -⟩ := name_of_prepared_none hp
    rw [hgenerate] at hcompleted
    exact hcompleted (hname.trans hn)
  · exact absurd hn hne

/-- A sync that ends well ends with a secret of the name that it was to write, whatever other
writers and failures there are in between. -/
theorem names_of_sync (hc : c.Named) {provider : StoreProgram (Except ProviderError SecretData)}
    {recreate : Bool} {s : Secret}
    (hs : ((sync ⟨t, .ofTags⟩ provider recreate).run storeServer c).result = .ok s) :
    t.Names recreate s.name := by
  rw [run_sync] at hs
  dsimp only at hs
  have hfetched := Cluster.named_run hc provider
  generalize provider.run storeServer c = fetched at hs hfetched
  have hcalls := write_calls storeServer ⟨t, .ofTags⟩ recreate fetched.result fetched.state
  rw [hs] at hcalls
  obtain ⟨data, -, hw⟩ := hcalls.of_ok
  -- A name that is wanted is kept through all fallbacks; without one there are none.
  by_cases hn : t.effectiveName recreate = ""
  · obtain ⟨suffix, hname⟩ := hw.generated_name (Cluster.completes_exchanges _ _) hn
    rw [hname]
    exact DeploymentTarget.names_generated hn suffix
  · have hname : s.name = t.effectiveName recreate :=
      (hw.written_name (Cluster.faithful_exchanges hfetched _)).2 hn
    rw [hname]
    exact DeploymentTarget.names_effectiveName hn

/-! ### Looking for a stale secret -/

theorem getStale_of_outdated {h : Handler} {name : String} (ho : h.target.Outdated name) :
    h.getStale = .request (.get h.target.ns name) fun reply =>
      Program.reporting (h.staleReport name reply) (.done (h.staleAnswer name reply)) := by
  have hname : h.target.previousName = some name := by
    simp [DeploymentTarget.previousName, ho.recorded, ho.nonempty]
  rw [getStale_eq, hname]
  exact if_neg fun hfits => ho.unwanted ((h.target.corresponds_iff name).1 hfits)

/-- No question is asked if there is nothing to look for. -/
theorem getStale_of_not_outdated {h : Handler} (ho : ∀ name, ¬h.target.Outdated name) :
    h.getStale = .done (.ok none) := by
  rw [getStale_eq]
  split
  · rfl
  · rename_i name hname
    obtain ⟨hrecorded, hne⟩ := Option.filter_eq_some_iff.1 hname
    -- A recorded name that is not empty and not outdated can only be a wanted one.
    have hallowed : h.target.Allows name := by
      refine Classical.byContradiction fun hnot => ho name ⟨hrecorded, ?_, hnot⟩
      simpa using hne
    exact if_pos ((h.target.corresponds_iff name).2 hallowed)

/-- There is one question at most, in any store. -/
theorem length_getStale_le {σ : Type} (server : Program.Server storeInterface σ) (h : Handler)
    (state : σ) : (h.getStale.exchanges server state).length ≤ 1 := by
  by_cases ho : ∃ name, h.target.Outdated name
  · obtain ⟨name, ho⟩ := ho
    rw [getStale_of_outdated ho]
    simp [Program.exchanges]
  · rw [getStale_of_not_outdated fun name hname => ho ⟨name, hname⟩]
    simp [Program.exchanges]

/-- Whatever has changed afterwards, the hook of the question has changed. -/
theorem state_getStale (h : Handler) (c : Cluster StoreError) :
    (h.getStale.run storeServer c).state
      = lastEntered c (h.getStale.steps storeServer c) := by
  by_cases ho : ∃ name, h.target.Outdated name
  · obtain ⟨name, ho⟩ := ho
    rw [getStale_of_outdated ho]
    simp only [Program.run_request, Program.run_reporting, Program.run_done,
      Program.steps_request, Program.steps_reporting, Program.steps_done]
    exact Cluster.storeServer_get_state c h.target.ns name
  · rw [getStale_of_not_outdated fun name hname => ho ⟨name, hname⟩]
    rfl

/-- On a cluster without hooks the secret of an outdated name is found if it is there. -/
theorem result_getStale (hc : c.hooks = []) (h : Handler) :
    ∃ found, (h.getStale.run storeServer c).result = .ok found ∧
      ∀ s, found = some s ↔
        ∃ name, h.target.Outdated name ∧ c.secret? h.target.ns name = some s := by
  by_cases ho : ∃ name, h.target.Outdated name
  · obtain ⟨name, ho⟩ := ho
    refine ⟨c.secret? h.target.ns name, ?_, fun s => ?_⟩
    · -- A secret that is gone is no failure.
      have hanswer : h.staleAnswer name (storeServer (.get h.target.ns name) c).1
          = .ok (c.secret? h.target.ns name) := by
        cases hplace : c.secret? h.target.ns name with
        | none =>
          obtain ⟨c', hget⟩ := Cluster.get_of_absent hc hplace
          rw [hget]
          rfl
        | some secret =>
          obtain ⟨c', hget, -⟩ := Cluster.get_of_stored hc hplace
          rw [hget]
          rfl
      rw [getStale_of_outdated ho, Program.run_request, Program.run_reporting, Program.run_done]
      exact hanswer
    · constructor
      · exact fun hs => ⟨name, ho, hs⟩
      · rintro ⟨name', ho', hs⟩
        obtain rfl : name = name' := Option.some.inj (ho.recorded.symm.trans ho'.recorded)
        exact hs
  · refine ⟨none, ?_, fun s => iff_of_false nofun ?_⟩
    · rw [getStale_of_not_outdated fun name hname => ho ⟨name, hname⟩]
      rfl
    · rintro ⟨name, hname, -⟩
      exact ho ⟨name, hname⟩

/-! ### Both -/

/-- Looking for a stale secret and syncing agree about names, on any cluster in memory with any
hooks.

Looking asks the store at most once, and nothing changes but what the hook of that question does.
Without hooks it succeeds, and finds the secret of the recorded name if that name is outdated and
the secret is there, and nothing otherwise.

Record the name that a sync ended with. If the sync did not write under the name that was recorded
before, the new one is not outdated, and nothing is asked about it. If it did, it is the same name,
and so is what looking for a stale secret does. -/
theorem getStale_agrees (c : Cluster StoreError) (t : DeploymentTarget) :
    let h : Handler := ⟨t, .ofTags⟩
    (h.getStale.exchanges storeServer c).length ≤ 1 ∧
    (h.getStale.run storeServer c).state = lastEntered c (h.getStale.steps storeServer c) ∧
    (c.hooks = [] → ∃ found, (h.getStale.run storeServer c).result = .ok found ∧
      ∀ s, found = some s ↔ ∃ name, t.Outdated name ∧ c.secret? t.ns name = some s) ∧
    (c.Named → ∀ (provider : StoreProgram (Except ProviderError SecretData)) (recreate : Bool)
        (s : Secret), ((h.sync provider recreate).run storeServer c).result = .ok s →
      let h' : Handler := ⟨{ t with recordedName := some s.name }, .ofTags⟩
      (recreate = true ∨ t.recordedName.getD "" = "" → h'.getStale = .done (.ok none)) ∧
      (recreate = false → t.recordedName.getD "" ≠ "" →
        t.recordedName = some s.name ∧ h'.getStale = h.getStale)) := by
  intro h
  refine ⟨length_getStale_le storeServer h c, state_getStale h c,
    fun hc => result_getStale hc h, ?_⟩
  intro hc provider recreate s hs h'
  have hnames := names_of_sync hc hs
  refine ⟨fun hp => ?_, fun hr hp => ?_⟩
  · refine getStale_of_not_outdated fun name ho => ho.unwanted ?_
    obtain rfl : s.name = name := Option.some.inj ho.recorded
    -- What is wanted does not depend on what is recorded.
    exact hnames.allows hp
  · have hrecorded := hnames.eq_recorded hr hp
    refine ⟨hrecorded, ?_⟩
    show (getStale ⟨{ t with recordedName := some s.name }, .ofTags⟩) = _
    rw [← hrecorded]

/-- A secret that is to get a generated name, and has a fixed one. -/
def renamedTarget : DeploymentTarget :=
  .inNamespace { generateName := "creds-" } "app" ⟨"team-a", "creds"⟩ "db"

/-- The old secret is found, and the one that is created in its place is not. -/
theorem getStale_agrees_renamed :
    let c : Cluster StoreError := Cluster.empty.put rival
    let h : Handler := ⟨renamedTarget, .ofTags⟩
    ∃ old s, (h.getStale.run storeServer c).result = .ok (some old) ∧ old.name = "db" ∧
      ((h.sync (.done (.ok .empty)) true).run storeServer c).result = .ok s ∧
      s.name = "creds-00001" ∧
      getStale ⟨{ renamedTarget with recordedName := some s.name }, .ofTags⟩
        = .done (.ok none) := by
  intro c h
  obtain ⟨-, -, hfind, hsync⟩ := getStale_agrees c renamedTarget
  obtain ⟨found, hfound, hiff⟩ := hfind rfl
  have hunwanted : ¬renamedTarget.Allows "db" :=
    mt (renamedTarget.corresponds_iff "db").2 (by decide)
  obtain ⟨old, hold⟩ : ∃ old, c.secret? "app" "db" = some old := ⟨_, rfl⟩
  have hnamed : c.Named := Cluster.named_put Cluster.named_empty rival
  obtain rfl : found = some old := (hiff old).2 ⟨"db", ⟨rfl, by decide, hunwanted⟩, hold⟩
  have hname : ((h.sync (.done (.ok .empty)) true).run storeServer c).result.toOption.map
      Secret.name = some "creds-00001" := by decide +kernel
  cases hs : ((h.sync (.done (.ok .empty)) true).run storeServer c).result with
  | error e =>
    rw [hs] at hname
    cases hname
  | ok s =>
    rw [hs] at hname
    obtain ⟨hfresh, -⟩ := hsync hnamed (.done (.ok .empty)) true s hs
    exact ⟨old, s, hfound, hnamed.name_eq hold, rfl, Option.some.inj hname, hfresh (.inl rfl)⟩

end Handler

end SecretSync
