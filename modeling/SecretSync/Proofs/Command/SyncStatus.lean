import SecretSync.Proofs.Command.Documented
import SecretSync.Proofs.Command.Outcomes
import SecretSync.Proofs.Command.SyncRun
import SecretSync.Proofs.Command.SyncTarget

/-!
# `SecretSync.Proofs.Command.SyncStatus`: what a sync leaves in the status

The cluster is any server that keeps the document of the resource as it should
(`Step.Serves`): store requests leave it alone, a fetch reads it, and recording
targets patches its status. Everything else that the cluster answers is open,
so any store request of any target may fail.

`sync_status` is the main statement, about a sync whose patch succeeds. Every
local target was handled to its end, whatever became of the others
(`Attempts`). The patch wrote the outcome of each into its own entry and left
the other entries as they were (`Recorded`), and nothing but the targets in the
status of the document changed (`OnlyTargets`). The command fails exactly if
some target did.
-/

set_option autoImplicit false

namespace SecretSync

open Program (Server Interleaved Answered stepOf ownExchanges)
open StoreExchange (written?)

namespace Command

/-- How the local targets of a resource were handled: each by its own program and to the end. -/
structure Attempts {σ : Type} (r : RemoteSecret) (owner : OwnerKey) (source : DataSource)
    (data : StoreProgram (Except ProviderError SecretData)) (recreate : Bool)
    (log : List (Nat × Step storeInterface σ)) (results : List (Except SyncError Secret)) :
    Prop where
  /-- There is one result for each local target. -/
  length : results.length = r.localTargets.length
  /-- It is what the target ends with when its requests are answered as they were. -/
  answered : ∀ i t, r.localTargets[i]? = some t → ∃ result, results[i]? = some result ∧
    Answered (syncTarget (r.handlerFor owner t) data recreate) (ownExchanges i log) result
  /-- Every store request is made for a local target and in its namespace, or it reads the secret
  that the data is copied from. -/
  place : ∀ x ∈ log, ∃ t, r.localTargets[x.1]? = some t ∧
    (x.2.request.ns = t.ns ∨ source.Reads x.2.toExchange)
  /-- A target succeeds with the secret that was written for it, and only so. -/
  materialized : ∀ i secret, results[i]? = some (.ok secret) ↔
    ∃ x, (i, x) ∈ log ∧ written? x.toExchange = some secret

variable {r : RemoteSecret} {owner : OwnerKey} {source : DataSource} {recreate : Bool}
  {data : StoreProgram (Except ProviderError SecretData)} {results : List (Except SyncError Secret)}

/-- Side by side, the local targets are all handled to the end. -/
theorem attempts_of_interleaved {σ : Type} {server : Server storeInterface σ} {s s' : σ}
    {log : List (Nat × Step storeInterface σ)} (hquery : source.query r owner = .ok data)
    (h : Interleaved server (targetRuns r owner data recreate) s log results s') :
    Attempts r owner source data recreate log results := by
  have hrun : ∀ i : Nat, (targetRuns r owner data recreate)[i]?
      = (r.localTargets[i]?).map fun t => syncTarget (r.handlerFor owner t) data recreate := by
    intro i
    unfold targetRuns RemoteSecret.handlers
    rw [List.getElem?_map, List.getElem?_map, Option.map_map]
    rfl
  have hlength : (targetRuns r owner data recreate).length = r.localTargets.length := by
    unfold targetRuns RemoteSecret.handlers
    rw [List.length_map, List.length_map]
  have hanswered : ∀ i t, r.localTargets[i]? = some t → ∃ result, results[i]? = some result ∧
      Answered (syncTarget (r.handlerFor owner t) data recreate) (ownExchanges i log) result := by
    intro i t ht
    exact h.answered (by rw [hrun, ht]; rfl)
  have hcalls : ∀ i t result, r.localTargets[i]? = some t → results[i]? = some result →
      Handler.TargetCalls (r.handlerFor owner t) source recreate (ownExchanges i log) result := by
    intro i t result ht hresult
    obtain ⟨result', hresult', hans⟩ := hanswered i t ht
    obtain rfl := Option.some.inj (hresult.symm.trans hresult')
    exact Handler.syncTarget_calls hquery hans
  refine ⟨h.length_eq.trans hlength, hanswered, ?_, ?_⟩
  · intro x hx
    have hlt : x.1 < r.localTargets.length := hlength ▸ h.lt_length hx
    have ht := List.getElem?_eq_getElem hlt
    obtain ⟨result, hresult, -⟩ := hanswered x.1 _ ht
    refine ⟨_, ht, (hcalls x.1 _ result ht hresult).place x.2.toExchange ?_⟩
    exact Program.mem_ownExchanges.2 ⟨x.2, hx, rfl⟩
  · intro i secret
    constructor
    · intro hresult
      have hlt := (List.getElem?_eq_some_iff.1 hresult).1
      rw [h.length_eq, hlength] at hlt
      have ht := List.getElem?_eq_getElem hlt
      obtain ⟨x, hx, hw⟩ := ((hcalls i _ _ ht hresult).ok_iff secret).1 rfl
      obtain ⟨y, hy, rfl⟩ := Program.mem_ownExchanges.1 hx
      exact ⟨y, hy, hw⟩
    · rintro ⟨x, hx, hw⟩
      have hlt : i < r.localTargets.length := hlength ▸ h.lt_length hx
      have ht := List.getElem?_eq_getElem hlt
      obtain ⟨result, hresult, -⟩ := hanswered i _ ht
      have hok := ((hcalls i _ result ht hresult).ok_iff secret).2
        ⟨_, Program.mem_ownExchanges.2 ⟨x, hx, rfl⟩, hw⟩
      rw [hresult, hok]

theorem failureCount_pos_iff (outcomes : List SyncOutcome) :
    0 < failureCount outcomes ↔ ∃ o ∈ outcomes, ∃ e, o.2 = .error e := by
  unfold failureCount
  rw [List.countP_pos_iff]
  refine exists_congr fun o => and_congr_right fun _ => ?_
  cases o.2 with
  | ok secret => simp
  | error e => simp

/-- A sync fails exactly if one of its outcomes is a failure. -/
theorem syncResult_error_iff (outcomes : List SyncOutcome) :
    (∃ f, syncResult outcomes = .error f) ↔ ∃ o ∈ outcomes, ∃ e, o.2 = .error e := by
  rw [← failureCount_pos_iff]
  show (∃ f, (if failureCount outcomes > 0 then _ else .ok ()) = Except.error f) ↔ _
  by_cases h : failureCount outcomes > 0
  · rw [if_pos h]
    exact ⟨fun _ => h, fun _ => ⟨_, rfl⟩⟩
  · rw [if_neg h]
    exact ⟨nofun, fun h' => absurd h' h⟩

/-- The outcomes have the results of the local targets. -/
theorem map_snd_outcomesOf (hlength : results.length = r.localTargets.length) :
    (outcomesOf r results).map Prod.snd = results := by
  unfold outcomesOf
  exact List.map_snd_zip (by simp [hlength])

theorem map_fst_outcomesOf (hlength : results.length = r.localTargets.length) :
    (outcomesOf r results).map Prod.fst = r.localTargets.map (·.ns) := by
  unfold outcomesOf
  exact List.map_fst_zip (by simp [hlength])

/-- The outcomes of local targets in different namespaces are all recorded. -/
theorem Attempts.recorded {σ : Type} {log : List (Nat × Step storeInterface σ)}
    (h : Attempts r owner source data recreate log results)
    (hdistinct : (r.localTargets.map (·.ns)).Nodup) :
    Recorded (outcomesOf r results) (r.status.getD {}).targets
      (targetsAfter r (outcomesOf r results)) := by
  have hnames : ((outcomesOf r results).map Prod.fst).Nodup := by
    rw [map_fst_outcomesOf h.length]
    exact hdistinct
  have hfold := recorded_foldl (outcomesOf r results) hnames (r.status.getD {}).targets
  unfold targetsAfter
  rw [foldl_recordOutcome]
  exact hfold

/-- What the store requests of all programs keep is the same at the end. -/
theorem eq_of_interleaved {σ α β : Type} {I : Interface} {server : Server I σ}
    {ps : List (Program I α)} {s s' : σ} {log : List (Nat × Step I σ)} {results : List α}
    (h : Interleaved server ps s log results s') (f : σ → β)
    (hf : ∀ x ∈ log, f x.2.after = f x.2.before) : f s' = f s := by
  induction h with
  | finished results s => rfl
  | emit i e p hi rest ih => exact ih hf
  | request i r k hi rest ih =>
    rw [ih fun x hx => hf x (List.mem_cons_of_mem _ hx)]
    exact hf _ List.mem_cons_self

/-! ### The status after a sync -/

section
variable {σ : Type} {K : Server clusterInterface σ} {order : Nat → List Nat} {ns name : String}
  {s s' : σ} {doc : σ → Json} {log : List (Nat × Step storeInterface σ)}
  {targets : List TargetStatus}

/-- A sync that has recorded targets went through all its parts. -/
theorem reaches_of_recorded
    {x : Step clusterInterface σ} (hx : x ∈ (sync order ns name source recreate).steps K s)
    (hrecorded : x.toExchange.recorded? = some targets) :
    ∃ r owner data log results s',
      Reaches K order ns name source recreate s r owner data log results s' ∧
      targets = targetsAfter r (outcomesOf r results) ∧
      ∃ r', (K (.recordTargets ns name targets) s').1 = .ok r' := by
  rcases sync_cases K order ns name source recreate s with
    ⟨hsteps, -⟩ | ⟨r, owner, data, log, results, s', h⟩
  · rw [hsteps] at hx
    obtain rfl := List.mem_singleton.1 hx
    cases hrecorded
  · rw [h.steps] at hx
    refine ⟨r, owner, data, log, results, s', h, ?_⟩
    rcases List.mem_cons.1 hx with rfl | hx
    · cases hrecorded
    · rcases List.mem_append.1 hx with hx | hx
      · obtain ⟨y, -, rfl⟩ := List.mem_map.1 hx
        cases hrecorded
      · obtain rfl := List.mem_singleton.1 hx
        have hreply : Exchange.recorded? ⟨.recordTargets ns name
            (targetsAfter r (outcomesOf r results)),
            (K (.recordTargets ns name (targetsAfter r (outcomesOf r results))) s').1⟩
              = some targets := hrecorded
        cases hanswer :
            (K (.recordTargets ns name (targetsAfter r (outcomesOf r results))) s').1 with
        | error e =>
          rw [hanswer] at hreply
          cases hreply
        | ok r' =>
          rw [hanswer] at hreply
          obtain rfl := Option.some.inj hreply
          exact ⟨rfl, r', hanswer⟩

/-- The resource that a sync works with is what the document says at its start. -/
theorem Reaches.read
    (hserves : ∀ x ∈ (sync order ns name source recreate).steps K s, x.Serves ns name doc)
    (h : Reaches K order ns name source recreate s r owner data log results s') :
    RemoteSecret.ofDocument? (doc s) = some r := by
  rw [h.steps] at hserves
  have hfetch : (stepOf K (.fetch ns name) s).Serves ns name doc := hserves _ List.mem_cons_self
  exact hfetch.2 rfl rfl r h.fetched

/-- The document is the same until the outcomes are recorded. -/
theorem Reaches.unchanged
    (hserves : ∀ x ∈ (sync order ns name source recreate).steps K s, x.Serves ns name doc)
    (h : Reaches K order ns name source recreate s r owner data log results s') :
    doc s' = doc s := by
  rw [h.steps] at hserves
  have hfetch : (stepOf K (.fetch ns name) s).Serves ns name doc := hserves _ List.mem_cons_self
  have hstore : ∀ x ∈ log, doc x.2.after = doc x.2.before := by
    intro x hx
    have hstep : x.2.ofStore.Serves ns name doc :=
      hserves _ (List.mem_cons_of_mem _
        (List.mem_append_left _ (List.mem_map_of_mem (f := fun x => x.2.ofStore) hx)))
    exact hstep
  exact (eq_of_interleaved h.handled doc hstore).trans hfetch.1

/-- The document at the end is the one at the start with the outcomes recorded. -/
theorem Reaches.document
    (hserves : ∀ x ∈ (sync order ns name source recreate).steps K s, x.Serves ns name doc)
    (h : Reaches K order ns name source recreate s r owner data log results s') {r' : RemoteSecret}
    (hok : (K (.recordTargets ns name (targetsAfter r (outcomesOf r results))) s').1 = .ok r') :
    doc ((sync order ns name source recreate).run K s).state
      = ApiServer.patchedStatus (doc s)
          (RemoteSecretApi.targetsPatch (targetsAfter r (outcomesOf r results))) := by
  have hsame := h.unchanged hserves
  rw [h.steps] at hserves
  have hpatch : (stepOf K (.recordTargets ns name (targetsAfter r (outcomesOf r results)))
      s').Serves ns name doc :=
    hserves _ (List.mem_cons_of_mem _ (List.mem_append_right _ (List.mem_singleton_self _)))
  rw [h.state, ← hsame]
  exact hpatch rfl rfl r' hok

/-- A sync whose outcomes were recorded, on any cluster and for any answers of its store. Between
the fetch and the patch, all local targets were handled to the end and nothing else was requested.
The patch wrote their outcomes, and nothing else in the document is new. The sync fails exactly if
one of the targets failed. -/
theorem sync_status (K : Server clusterInterface σ) (order : Nat → List Nat) (ns name : String)
    (source : DataSource) (recreate : Bool) (s : σ) (doc : σ → Json)
    (hserves : ∀ x ∈ (sync order ns name source recreate).steps K s, x.Serves ns name doc)
    (r : RemoteSecret) (hr : RemoteSecret.ofDocument? (doc s) = some r)
    (hdistinct : (r.localTargets.map (·.ns)).Nodup) (targets : List TargetStatus)
    (hrecorded : ∃ x ∈ (sync order ns name source recreate).steps K s,
      x.toExchange.recorded? = some targets) :
    ∃ owner data log results s',
      r.key? = some owner ∧ source.query r owner = .ok data ∧
      (sync order ns name source recreate).steps K s
        = stepOf K (.fetch ns name) s :: ((log.map fun x => x.2.ofStore)
            ++ [stepOf K (.recordTargets ns name targets) s']) ∧
      Attempts r owner source data recreate log results ∧
      Recorded (outcomesOf r results) (r.status.getD {}).targets targets ∧
      OnlyTargets r targets (doc s) (doc ((sync order ns name source recreate).run K s).state) ∧
      ((∃ f, ((sync order ns name source recreate).run K s).result = .error f) ↔
        ∃ e, .error e ∈ results) := by
  obtain ⟨x, hx, hrecorded⟩ := hrecorded
  obtain ⟨r', owner, data, log, results, s', h, rfl, answer, hanswer⟩ :=
    reaches_of_recorded hx hrecorded
  obtain rfl : r = r' := Option.some.inj (hr.symm.trans (h.read hserves))
  have hattempts := attempts_of_interleaved h.query h.handled
  refine ⟨owner, data, log, results, s', h.key, h.query, h.steps, hattempts,
    hattempts.recorded hdistinct, ?_, ?_⟩
  · rw [h.document hserves hanswer]
    exact onlyTargets_patchedStatus hr _
  · rw [h.result, hanswer]
    show (∃ f, syncResult (outcomesOf r results) = .error f) ↔ _
    have hresults := map_snd_outcomesOf hattempts.length
    rw [syncResult_error_iff]
    constructor
    · rintro ⟨o, ho, e, he⟩
      have hmem := List.mem_map_of_mem (f := Prod.snd) ho
      rw [hresults, he] at hmem
      exact ⟨e, hmem⟩
    · rintro ⟨e, he⟩
      rw [← hresults] at he
      obtain ⟨o, ho, heq⟩ := List.mem_map.1 he
      exact ⟨o, ho, e, heq⟩

end

/-- A resource with two local targets and one in another cluster. The status knows the secret of
one local target, and that of a target that is no longer wanted. -/
def sharedCreds : RemoteSecret where
  metadata := { name := some "creds", ns := some "team" }
  spec := {
    secret := { generateName := "db-" }
    targets := [{ ns := "app" }, { ns := "web" }, { ns := "app", apiUrl := some "https://edge" }]
    uploadData := some (.ofList [("user", "reader")]) }
  status := some {
    targets := [{ ns := "gone", secretName := "db-1" }, { ns := "web", secretName := "db-2" }] }

/-- A cluster that refuses to read a secret of one target. -/
def halfDenied : Documented where
  cluster := { hooks := [{ verb := .get, ns := some "web", failure := some (.other "denied") }] }
  document := sharedCreds.toJson

/-- The secret that could not be read keeps its name, and the other target gets one. -/
theorem sync_status_halfDenied :
    let run := (sync inTurns "team" "creds" .uploadData false).run Documented.server halfDenied
    ∃ targets, RemoteSecret.ofDocument? run.state.document
        = some { sharedCreds with status := some { targets := targets } } ∧
      targets.map (fun t => (t.ns, t.secretName, t.error.isSome))
        = [("gone", "db-1", false), ("web", "db-2", true), ("app", "db-00001", false)] := by
  intro run
  have hrecorded : (((sync inTurns "team" "creds" .uploadData false).steps Documented.server
      halfDenied).findSome? (·.toExchange.recorded?)).map
        (List.map fun t => (t.ns, t.secretName, t.error.isSome))
      = some [("gone", "db-1", false), ("web", "db-2", true), ("app", "db-00001", false)] := by
    decide +kernel
  obtain ⟨targets, htargets, hnames⟩ := Option.map_eq_some_iff.1 hrecorded
  obtain ⟨x, hx, hrecorded⟩ := List.exists_of_findSome?_eq_some htargets
  obtain ⟨owner, data, log, results, s', -, -, -, -, -, honly, -⟩ :=
    sync_status Documented.server inTurns "team" "creds" .uploadData false halfDenied
      Documented.document (fun x hx => Documented.serves "team" "creds" hx) sharedCreds
      (by decide +kernel) (by decide +kernel) targets ⟨x, hx, hrecorded⟩
  exact ⟨targets, honly.read, hnames⟩

end Command

end SecretSync
