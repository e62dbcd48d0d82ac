import SecretSync.Proofs.Command.Naming
import SecretSync.Proofs.Command.SyncStatus

/-!
# `SecretSync.Proofs.Command.RepeatedSync`: one secret for every target

A resource is synced again and again. Between the syncs its specification may
be edited and secrets may be deleted, during a sync any store request may fail,
and the data comes from anywhere. But nobody else writes the targets in the
status (`Resumes`), and the requests about the resource itself succeed
(`SyncCommand.Regular`).

A sync that knows the name of a secret writes under no other and keeps it, and
a sync that does not know one records the one that it has written
(`KeepsName`). `keepsName_of_known` carries this through a history, and
`repeated_sync` is the main statement: from the first write on, a target has
one name.
-/

set_option autoImplicit false

namespace SecretSync

open Program (Server stepOf ownExchanges)
open StoreExchange (written?)

namespace Command

/-- A sync on a resource: whose turn it is, where the data comes from, and the state in which it
starts. -/
structure SyncCommand (σ : Type) where
  order : Nat → List Nat
  source : DataSource
  start : σ

/-! ### The recorded name -/

/-- The targets in the status of a document, if it can be read. -/
def storedTargets (document : Json) : Option (List TargetStatus) :=
  (RemoteSecret.ofDocument? document).map fun r => (r.status.getD {}).targets

/-- The name of the secret of a local target in a list of targets, empty if there is none. -/
def nameIn (targets : List TargetStatus) (ns : String) : String :=
  ((targets.find? (·.isFor ns none)).map (·.secretName)).getD ""

/-- What a sync reads as the recorded name is what the list of targets says. -/
theorem recordedName_eq (r : RemoteSecret) (ns : String) :
    r.recordedName ns = nameIn (r.status.getD {}).targets ns := by
  unfold RemoteSecret.recordedName nameIn
  cases r.status with
  | none => rfl
  | some status =>
    rw [Option.bind_some, Status.target?, Option.getD_some]
    cases status.targets.find? (·.isFor ns none) <;> rfl

/-- The recorded name of a local target in a document, if the document can be read. -/
def storedName (document : Json) (ns : String) : Option String :=
  (storedTargets document).map (nameIn · ns)

/-- A sync that reads a document finds the names that it records. -/
theorem storedName_of_read {document : Json} {r : RemoteSecret}
    (hr : RemoteSecret.ofDocument? document = some r) (target : String) :
    storedName document target = some (r.recordedName target) := by
  unfold storedName storedTargets
  rw [hr, recordedName_eq]
  rfl

/-- A recorded name is that of an entry. -/
theorem target_of_storedName {document : Json} {ns known : String}
    (h : storedName document ns = some known) (hknown : known ≠ "") :
    ∃ targets t, storedTargets document = some targets ∧
      targets.find? (·.isFor ns none) = some t ∧ t.secretName = known := by
  obtain ⟨targets, htargets, hname⟩ := Option.map_eq_some_iff.1 h
  unfold nameIn at hname
  cases hfind : targets.find? (·.isFor ns none) with
  | none =>
    rw [hfind] at hname
    exact absurd hname.symm hknown
  | some t =>
    rw [hfind] at hname
    exact ⟨targets, t, htargets, hfind, hname⟩

/-- The name of a target after a sync: that of its secret, or the one before if there is none. -/
theorem Recorded.nameIn_eq {outcomes : List SyncOutcome} {old new : List TargetStatus}
    (h : Recorded outcomes old new) {o : SyncOutcome} (ho : o ∈ outcomes) :
    nameIn new o.1 = match o.2 with
      | .ok secret => secret.name
      | .error _ => nameIn old o.1 := by
  unfold nameIn
  rw [h.found o ho]
  obtain ⟨ns, result⟩ := o
  cases result with
  | ok secret => rfl
  | error e => cases old.find? (·.isFor ns none) <;> rfl

theorem Recorded.nameIn_of_forall_ne {outcomes : List SyncOutcome} {old new : List TargetStatus}
    (h : Recorded outcomes old new) {ns : String} (hns : ∀ o ∈ outcomes, o.1 ≠ ns) :
    nameIn new ns = nameIn old ns := by
  unfold nameIn
  rw [h.untouched ns none (.inr hns)]

/-- What some calls do to the name of a local target: a name that is known is kept and no other is
asked for, and what is written has the name that is known afterwards. -/
structure KeepsName (ns known known' : String) (calls : List StoreExchange) : Prop where
  kept : known ≠ "" → known' = known
  sent : known ≠ "" → ∀ x ∈ calls, x.request.ns = ns →
    ∀ s, x.request.sent? = some s → s.name = known
  written : ∀ x ∈ calls, x.request.ns = ns →
    ∀ s, written? x = some s → s.name ≠ "" ∧ known' = s.name

/-! ### One sync -/

variable {r : RemoteSecret} {owner : OwnerKey} {source : DataSource}
  {data : StoreProgram (Except ProviderError SecretData)} {results : List (Except SyncError Secret)}

theorem mem_outcomesOf {o : SyncOutcome} (h : o ∈ outcomesOf r results) :
    ∃ (i : Nat) (t : TargetSpec), r.localTargets[i]? = some t ∧ results[i]? = some o.2 ∧
      o.1 = t.ns := by
  obtain ⟨i, hi⟩ := List.mem_iff_getElem?.1 h
  obtain ⟨hns, hresult⟩ := List.getElem?_zip_eq_some.1 hi
  rw [List.getElem?_map] at hns
  obtain ⟨t, ht, hns⟩ := Option.map_eq_some_iff.1 hns
  exact ⟨i, t, ht, hresult, hns.symm⟩

theorem mem_outcomesOf_of_getElem? {i : Nat} {t : TargetSpec} {result : Except SyncError Secret}
    (ht : r.localTargets[i]? = some t) (hresult : results[i]? = some result) :
    (t.ns, result) ∈ outcomesOf r results := by
  refine List.mem_iff_getElem?.2 ⟨i, List.getElem?_zip_eq_some.2 ⟨?_, hresult⟩⟩
  rw [List.getElem?_map, ht]
  rfl

section
variable {σ : Type} {log : List (Nat × Step storeInterface σ)}

/-- The calls for a target with what it ends with. -/
theorem Attempts.targetCalls {recreate : Bool}
    (h : Attempts r owner source data recreate log results)
    (hquery : source.query r owner = .ok data) {i : Nat} {t : TargetSpec}
    {result : Except SyncError Secret} (ht : r.localTargets[i]? = some t)
    (hresult : results[i]? = some result) :
    Handler.TargetCalls (r.handlerFor owner t) source recreate (ownExchanges i log) result := by
  obtain ⟨result', hresult', hans⟩ := h.answered i t ht
  obtain rfl := Option.some.inj (hresult.symm.trans hresult')
  exact Handler.syncTarget_calls hquery hans

/-- A call that is not a read is made for the local target of its namespace. -/
theorem Attempts.target_of_mem {recreate : Bool}
    (h : Attempts r owner source data recreate log results) {x : Nat × Step storeInterface σ}
    (hx : x ∈ log) (hwrite : ¬ StoreExchange.IsRead x.2.toExchange) :
    ∃ t, r.localTargets[x.1]? = some t ∧ t.ns = x.2.request.ns := by
  obtain ⟨t, ht, hplace | hreads⟩ := h.place x hx
  · exact ⟨t, ht, hplace.symm⟩
  · exact absurd hreads.isRead hwrite

/-- A sync that records its outcomes keeps the name of every target. -/
theorem Attempts.keepsName (h : Attempts r owner source data false log results)
    (hquery : source.query r owner = .ok data)
    (hdistinct : (r.localTargets.map (·.ns)).Nodup)
    (hfaithful : ∀ x ∈ log, StoreExchange.Faithful x.2.toExchange) (ns : String) :
    KeepsName ns (r.recordedName ns) (nameIn (targetsAfter r (outcomesOf r results)) ns)
      (log.map fun x => x.2.toExchange) := by
  have hrecorded := h.recorded hdistinct
  have hown : ∀ i, ∀ x ∈ ownExchanges i log, StoreExchange.Faithful x := by
    intro i x hx
    obtain ⟨y, hy, rfl⟩ := Program.mem_ownExchanges.1 hx
    exact hfaithful _ hy
  refine ⟨?_, ?_, ?_⟩
  · intro hknown
    by_cases houtcome : ∃ o ∈ outcomesOf r results, o.1 = ns
    · obtain ⟨⟨ns', result⟩, ho, rfl⟩ := houtcome
      obtain ⟨i, t, ht, hresult, rfl⟩ := mem_outcomesOf ho
      have hname := hrecorded.nameIn_eq ho
      cases result with
      | error e => exact hname.trans (recordedName_eq r t.ns).symm
      | ok s =>
        have hcalls := h.targetCalls hquery ht hresult
        exact hname.trans ((hcalls.written_name (hown i)).2 hknown)
    · rw [recordedName_eq]
      exact hrecorded.nameIn_of_forall_ne fun o ho he => houtcome ⟨o, ho, he⟩
  · intro hknown x hx hns s hs
    obtain ⟨⟨i, x⟩, hlog, rfl⟩ := List.mem_map.1 hx
    have hwrite : ¬ StoreExchange.IsRead x.toExchange := by
      intro hread
      rw [hread.unsent] at hs
      cases hs
    obtain ⟨t, ht, htarget⟩ := h.target_of_mem hlog hwrite
    obtain rfl : t.ns = ns := htarget.trans hns
    obtain ⟨result, hresult, -⟩ := h.answered i t ht
    have hcalls := h.targetCalls hquery ht hresult
    exact hcalls.sent_name (hown i) hknown _ (Program.mem_ownExchanges.2 ⟨x, hlog, rfl⟩) s hs
  · intro x hx hns s hs
    obtain ⟨⟨i, x⟩, hlog, rfl⟩ := List.mem_map.1 hx
    have hwrite : ¬ StoreExchange.IsRead x.toExchange := by
      intro hread
      rw [hread.unwritten] at hs
      cases hs
    obtain ⟨t, ht, htarget⟩ := h.target_of_mem hlog hwrite
    obtain rfl : t.ns = ns := htarget.trans hns
    have hresult := (h.materialized i s).2 ⟨x, hlog, hs⟩
    have hcalls := h.targetCalls hquery ht hresult
    exact ⟨(hcalls.written_name (hown i)).1,
      hrecorded.nameIn_eq (mem_outcomesOf_of_getElem? ht hresult)⟩

end

namespace SyncCommand

variable {σ : Type} (K : Server clusterInterface σ) (ns name : String)

/-- What the command does. -/
def program (x : SyncCommand σ) : ClusterProgram CommandResult :=
  sync x.order ns name x.source false

/-- The calls of the store that it makes. -/
def calls (x : SyncCommand σ) : List StoreExchange :=
  ((x.program ns name).steps K x.start).filterMap (·.toExchange.storeCall?)

/-- The state that it leaves. -/
def final (x : SyncCommand σ) : σ := ((x.program ns name).run K x.start).state

/-- A sync on a cluster that keeps the document of the resource, grants the requests about it and
answers with the secrets that are asked for. No two local targets are in the same namespace. -/
structure Regular (doc : σ → Json) (x : SyncCommand σ) : Prop where
  serves : ∀ y ∈ (x.program ns name).steps K x.start, y.Serves ns name doc
  granted : ∀ y ∈ (x.program ns name).steps K x.start, y.toExchange.Granted
  faithful : ∀ call ∈ x.calls K ns name, call.Faithful
  distinct : ∀ r, RemoteSecret.ofDocument? (doc x.start) = some r →
    (r.localTargets.map (·.ns)).Nodup

variable {K ns name} {doc : σ → Json} {x : SyncCommand σ}

/-- Outside its store calls a sync makes none. -/
theorem calls_of_reaches {r : RemoteSecret} {owner : OwnerKey}
    {data : StoreProgram (Except ProviderError SecretData)}
    {log : List (Nat × Step storeInterface σ)} {results : List (Except SyncError Secret)} {s' : σ}
    (h : Reaches K x.order ns name x.source false x.start r owner data log results s') :
    x.calls K ns name = log.map fun y => y.2.toExchange := by
  unfold calls program
  rw [h.steps, List.filterMap_cons_none rfl, List.filterMap_append, List.filterMap_map]
  refine (List.append_nil _).trans ?_
  exact congrFun List.filterMap_eq_map log

/-- A sync that ends with its fetch changes nothing. -/
theorem keepsName_of_stopped (hx : x.Regular K ns name doc)
    (hsteps : (x.program ns name).steps K x.start = [stepOf K (.fetch ns name) x.start])
    (hstate : x.final K ns name = (K (.fetch ns name) x.start).2) (target : String) :
    ∃ known, storedName (doc x.start) target = some known ∧
      storedName (doc (x.final K ns name)) target = some known ∧
      KeepsName target known known (x.calls K ns name) := by
  have hserves := hx.serves
  have hgranted := hx.granted
  rw [hsteps] at hserves hgranted
  obtain ⟨r, hfetched⟩ : (stepOf K (.fetch ns name) x.start).toExchange.Granted :=
    hgranted _ (List.mem_singleton_self _)
  obtain ⟨hsame, hread⟩ : (stepOf K (.fetch ns name) x.start).Serves ns name doc :=
    hserves _ (List.mem_singleton_self _)
  have hr := storedName_of_read (hread rfl rfl r hfetched) target
  have hfinal : doc (x.final K ns name) = doc x.start := by
    rw [hstate]
    exact hsame
  have hcalls : x.calls K ns name = [] := by
    unfold calls
    rw [hsteps]
    rfl
  refine ⟨_, hr, by rw [hfinal, hr], ?_⟩
  rw [hcalls]
  exact ⟨fun _ => rfl, fun _ => List.forall_mem_nil _, List.forall_mem_nil _⟩

/-- A sync that goes through all its parts leaves the names that it has recorded. -/
theorem keepsName_of_reaches (hx : x.Regular K ns name doc) {r : RemoteSecret} {owner : OwnerKey}
    {data : StoreProgram (Except ProviderError SecretData)}
    {log : List (Nat × Step storeInterface σ)} {results : List (Except SyncError Secret)} {s' : σ}
    (h : Reaches K x.order ns name x.source false x.start r owner data log results s')
    (target : String) :
    ∃ known known', storedName (doc x.start) target = some known ∧
      storedName (doc (x.final K ns name)) target = some known' ∧
      KeepsName target known known' (x.calls K ns name) := by
  have hr := h.read hx.serves
  obtain ⟨r', hok⟩ : ∃ r', (K (.recordTargets ns name (targetsAfter r (outcomesOf r results)))
      s').1 = .ok r' := by
    refine hx.granted (stepOf K (.recordTargets ns name _) s') ?_
    show _ ∈ (sync x.order ns name x.source false).steps K x.start
    rw [h.steps]
    exact List.mem_cons_of_mem _ (List.mem_append_right _ (List.mem_singleton_self _))
  have hfinal : storedName (doc (x.final K ns name)) target
      = some (nameIn (targetsAfter r (outcomesOf r results)) target) := by
    unfold final program storedName storedTargets
    rw [h.document hx.serves hok, (onlyTargets_patchedStatus hr _).read]
    rfl
  have hcalls := calls_of_reaches h
  have hfaithful : ∀ y ∈ log, StoreExchange.Faithful y.2.toExchange := by
    intro y hy
    refine hx.faithful _ ?_
    rw [hcalls]
    exact List.mem_map_of_mem (f := fun y => y.2.toExchange) hy
  have hattempts := attempts_of_interleaved h.query h.handled
  refine ⟨_, _, storedName_of_read hr target, hfinal, ?_⟩
  rw [hcalls]
  exact hattempts.keepsName h.query (hx.distinct r hr) hfaithful target

/-- Every regular sync keeps the name of every target in the document. -/
theorem keepsName (hx : x.Regular K ns name doc) (target : String) :
    ∃ known known', storedName (doc x.start) target = some known ∧
      storedName (doc (x.final K ns name)) target = some known' ∧
      KeepsName target known known' (x.calls K ns name) := by
  rcases sync_cases K x.order ns name x.source false x.start with
    ⟨hsteps, hstate, -⟩ | ⟨r, owner, data, log, results, s', h⟩
  · obtain ⟨known, hkeeps⟩ := keepsName_of_stopped hx hsteps hstate target
    exact ⟨known, known, hkeeps⟩
  · exact keepsName_of_reaches hx h target

end SyncCommand

/-! ### Histories -/

section
variable {σ : Type} {K : Server clusterInterface σ} {ns name : String} {doc : σ → Json}

/-- Commands one after the other. What happens in between leaves the targets in the status to
them. -/
def Resumes (K : Server clusterInterface σ) (ns name : String) (doc : σ → Json)
    (x y : SyncCommand σ) : Prop :=
  storedTargets (doc y.start) = storedTargets (doc (x.final K ns name))

/-- A command starts with the name that the one before it has left. -/
theorem Resumes.storedName_eq {x y : SyncCommand σ} (h : Resumes K ns name doc x y)
    (target : String) :
    storedName (doc y.start) target = storedName (doc (x.final K ns name)) target :=
  congrArg (Option.map (nameIn · target)) h

/-- A name that is known at the start of a history is kept by each of its commands. -/
theorem keepsName_of_known {history : List (SyncCommand σ)}
    (hregular : ∀ x ∈ history, x.Regular K ns name doc)
    (hchain : history.IsChain (Resumes K ns name doc)) {target known : String} (hknown : known ≠ "")
    (hstart : ∀ x ∈ history.head?, storedName (doc x.start) target = some known) :
    ∀ y ∈ history, KeepsName target known known (y.calls K ns name) ∧
      storedName (doc (y.final K ns name)) target = some known := by
  induction history with
  | nil => exact List.forall_mem_nil _
  | cons x rest ih =>
    obtain ⟨hx, hrest⟩ := List.forall_mem_cons.1 hregular
    obtain ⟨hnext, hchain⟩ := List.isChain_cons.1 hchain
    obtain ⟨before, after, hbefore, hafter, hkeeps⟩ := SyncCommand.keepsName hx target
    obtain rfl : before = known := Option.some.inj (hbefore.symm.trans (hstart x rfl))
    obtain rfl : after = before := hkeeps.kept hknown
    refine List.forall_mem_cons.2 ⟨⟨hkeeps, hafter⟩, ih hrest hchain fun y hy => ?_⟩
    exact ((hnext y hy).storedName_eq target).trans hafter

/-- Any number of syncs of a resource, without `recreate`. Once one of them has written the secret
of a local target, every later one that writes it writes under the same name and asks for no other,
and the status holds this name after each of them. -/
theorem repeated_sync (K : Server clusterInterface σ) (ns name : String) (doc : σ → Json)
    (history : List (SyncCommand σ)) (hregular : ∀ x ∈ history, x.Regular K ns name doc)
    (hchain : history.IsChain (Resumes K ns name doc))
    (i j : Nat) (hij : i ≤ j) (x y : SyncCommand σ) (hx : history[i]? = some x)
    (hy : history[j]? = some y) (target : String) (call : StoreExchange)
    (hcall : call ∈ x.calls K ns name) (htarget : call.request.ns = target) (s : Secret)
    (hs : written? call = some s) :
    s.name ≠ "" ∧
    (∀ call' ∈ y.calls K ns name, call'.request.ns = target →
      ∀ s', written? call' = some s' → s'.name = s.name) ∧
    (i < j → ∀ call' ∈ y.calls K ns name, call'.request.ns = target →
      ∀ sent, call'.request.sent? = some sent → sent.name = s.name) ∧
    ∃ targets t, storedTargets (doc (y.final K ns name)) = some targets ∧
      targets.find? (·.isFor target none) = some t ∧ t.secretName = s.name := by
  obtain ⟨known, known', -, hafter, hkeeps⟩ :=
    SyncCommand.keepsName (hregular x (List.mem_of_getElem? hx)) target
  obtain ⟨hne, rfl⟩ := hkeeps.written call hcall htarget s hs
  refine ⟨hne, ?_⟩
  rcases Nat.lt_or_eq_of_le hij with hlt | rfl
  · -- The commands after `x` start with the name known.
    obtain ⟨hbound, hget⟩ := List.getElem?_eq_some_iff.1 hx
    have hchain := hchain.drop i
    rw [List.drop_eq_getElem_cons hbound, hget] at hchain
    obtain ⟨hnext, hchain⟩ := List.isChain_cons.1 hchain
    have hlater : y ∈ history.drop (i + 1) := by
      refine List.mem_iff_getElem?.2 ⟨j - (i + 1), ?_⟩
      rw [List.getElem?_drop, show i + 1 + (j - (i + 1)) = j by omega]
      exact hy
    obtain ⟨hkeeps, hstored⟩ :=
      keepsName_of_known (fun z hz => hregular z (List.mem_of_mem_drop hz)) hchain hne
        (fun z hz => ((hnext z hz).storedName_eq target).trans hafter) y hlater
    refine ⟨?_, fun _ => hkeeps.sent hne, target_of_storedName hstored hne⟩
    intro call' hcall' htarget' s' hs'
    exact (hkeeps.written call' hcall' htarget' s' hs').2.symm
  · obtain rfl : x = y := Option.some.inj (hx.symm.trans hy)
    refine ⟨?_, fun h => absurd h (Nat.lt_irrefl _), target_of_storedName hafter hne⟩
    intro call' hcall' htarget' s' hs'
    exact (hkeeps.written call' hcall' htarget' s' hs').2.symm

end

/-- A sync on a cluster in memory is regular if the document names different namespaces. -/
theorem SyncCommand.regular_documented {ns name : String} {x : SyncCommand Documented}
    (hstart : x.start.Regular) {namespaces : List String} (hdistinct : namespaces.Nodup)
    (hnamespaces : (RemoteSecret.ofDocument? x.start.document).map
      (fun r => r.localTargets.map (·.ns)) = some namespaces) :
    x.Regular Documented.server ns name Documented.document := by
  refine ⟨fun y hy => Documented.serves ns name hy, fun y hy => Documented.granted hstart hy,
    ?_, ?_⟩
  · intro call hcall
    obtain ⟨y, hy, hcall⟩ := List.mem_filterMap.1 hcall
    exact Documented.faithful hstart hy hcall
  · intro r hr
    rw [hr] at hnamespaces
    obtain rfl : r.localTargets.map (·.ns) = namespaces := Option.some.inj hnamespaces
    exact hdistinct

/-- A resource with one target, for the wanted shape of its secret. -/
def singleTarget (secret : SecretSpec) (status : Option Status) : RemoteSecret where
  metadata := { name := some "creds", ns := some "team" }
  spec := {
    secret := secret
    targets := [{ ns := "app" }]
    uploadData := some (.ofList [("user", "reader")]) }
  status := status

/-- The first sync, which has a name generated. -/
def firstSync : SyncCommand Documented where
  order := inTurns
  source := .uploadData
  start := ⟨.empty, (singleTarget { generateName := "db-" } none).toJson⟩

/-- The second sync, after another name is wanted and the secret was deleted. It cannot create the
secret again. -/
def secondSync : SyncCommand Documented where
  order := inTurns
  source := .uploadData
  start := {
    cluster := { hooks := [{ verb := .create, failure := some (.other "denied") }] }
    document := (singleTarget { name := "renamed" }
      (some { targets := [{ ns := "app", secretName := "db-00001" }] })).toJson }

/-- The third sync, which goes on where the second has failed. -/
def thirdSync : SyncCommand Documented where
  order := inTurns
  source := .uploadData
  start := secondSync.final Documented.server "team" "creds"

/-- Every sync of this history is regular. -/
theorem regular_singleTarget : ∀ x ∈ [firstSync, secondSync, thirdSync],
    x.Regular Documented.server "team" "creds" Documented.document := by
  have hone : ["app"].Nodup := by decide
  have hfirst : firstSync.start.Regular :=
    ⟨⟨Cluster.versioned_empty, List.forall_mem_nil _⟩,
      singleTarget { generateName := "db-" } none, by decide +kernel⟩
  have hsecond : secondSync.start.Regular :=
    ⟨⟨fun _ => Shelf.versioned_empty, List.forall_mem_singleton.2 (List.forall_mem_nil _)⟩,
      singleTarget { name := "renamed" }
        (some { targets := [{ ns := "app", secretName := "db-00001" }] }), by decide +kernel⟩
  have hthird : thirdSync.start.Regular :=
    Program.invariant_run Documented.regular_server _ hsecond
  refine List.forall_mem_cons.2 ⟨?_, List.forall_mem_cons.2 ⟨?_, List.forall_mem_singleton.2 ?_⟩⟩
  · exact SyncCommand.regular_documented hfirst hone (by decide +kernel)
  · exact SyncCommand.regular_documented hsecond hone (by decide +kernel)
  · exact SyncCommand.regular_documented hthird hone (by decide +kernel)

/-- The secret that a command has written in a namespace. -/
def SyncCommand.secretIn? (x : SyncCommand Documented) (target : String) : Option Secret :=
  (x.calls Documented.server "team" "creds").findSome? fun call =>
    if call.request.ns = target then written? call else none

/-- The generated name outlives the edit, the deletion and the failure: the third sync creates the
secret under it again, and the status still holds it. -/
theorem repeated_sync_recreated :
    (thirdSync.secretIn? "app").map Secret.name = some "db-00001" ∧
      ∃ targets t, storedTargets (thirdSync.final Documented.server "team" "creds").document
          = some targets ∧
        targets.find? (·.isFor "app" none) = some t ∧ t.secretName = "db-00001" := by
  have hwrites : (firstSync.secretIn? "app").map Secret.name = some "db-00001" := by
    decide +kernel
  obtain ⟨s, hs, hname⟩ := Option.map_eq_some_iff.1 hwrites
  obtain ⟨call, hcall, hwritten⟩ := List.exists_of_findSome?_eq_some hs
  obtain ⟨htarget, hwritten⟩ := Option.ite_none_right_eq_some.1 hwritten
  have hchain : [firstSync, secondSync, thirdSync].IsChain
      (Resumes Documented.server "team" "creds" Documented.document) := by
    refine List.isChain_cons_cons.2 ⟨?_, List.isChain_cons_cons.2 ⟨rfl, .singleton _⟩⟩
    show storedTargets _ = storedTargets _
    decide +kernel
  obtain ⟨-, -, -, hstored⟩ := repeated_sync Documented.server "team" "creds" Documented.document
    [firstSync, secondSync, thirdSync] regular_singleTarget hchain 0 2 (by decide) firstSync
    thirdSync rfl rfl "app" call hcall htarget s hwritten
  rw [hname] at hstored
  exact ⟨by decide +kernel, hstored⟩

end Command

end SecretSync
