import SecretSync.Command.Sync
import SecretSync.Proofs.Command.Store
import SecretSync.Proofs.Program.Interleaving

/-!
# `SecretSync.Proofs.Command.SyncRun`: the three parts of a sync

A sync fetches its resource, runs its local targets side by side, and records
their outcomes. `sync_cases` takes every run apart, on an arbitrary cluster:
either the sync ends after the fetch, or it goes through all three parts, and
then `Reaches` says what each of them does. There is no other place to end, so
the second part is never cut short.
-/

set_option autoImplicit false

namespace SecretSync

open Program (Server Interleaved reporting stepOf)

/-! ### The local targets -/

namespace RemoteSecret

/-- The targets of a resource in the local cluster, in the order of the specification. -/
def localTargets (r : RemoteSecret) : List TargetSpec := r.spec.targets.filter (·.isLocal)

/-- The handler of a local target, with the name that the status records. -/
def handlerFor (r : RemoteSecret) (owner : OwnerKey) (t : TargetSpec) : Handler :=
  ⟨.inNamespace r.spec.secret t.ns owner (r.recordedName t.ns), .ofTags⟩

/-- The handlers of the local targets. -/
def handlers (r : RemoteSecret) (owner : OwnerKey) : List Handler :=
  r.localTargets.map (r.handlerFor owner)

variable {r : RemoteSecret} {owner : OwnerKey}

/-- The walk over the targets of a resource with a key gives a deployment target for each local
one. -/
theorem walkTargets_snd (hkey : r.key? = some owner) (targets : List TargetSpec) :
    (r.walkTargets targets).2
      = .ok ((targets.filter (·.isLocal)).map fun t => (r.handlerFor owner t).target) := by
  induction targets with
  | nil => rfl
  | cons t rest ih =>
    unfold walkTargets
    by_cases ht : t.isLocal = true
    · have htarget : DeploymentTarget.ofRemoteSecret r t = .ok (r.handlerFor owner t).target := by
        unfold DeploymentTarget.ofRemoteSecret
        rw [ht, hkey]
        rfl
      rw [if_pos ht, htarget, List.filter_cons_of_pos ht, List.map_cons]
      show (r.walkTargets rest).2.map _ = _
      rw [ih]
      rfl
    · rw [if_neg ht, List.filter_cons_of_neg ht]
      exact ih

/-- Without local targets there are no handlers, and that is a failure. -/
theorem handlersOf_walkTargets (hkey : r.key? = some owner) :
    handlersOf (r.walkTargets r.spec.targets).2
      = if r.localTargets = [] then .error noLocalTargets else .ok (r.handlers owner) := by
  rw [walkTargets_snd hkey]
  unfold handlers localTargets
  cases r.spec.targets.filter (·.isLocal) with
  | nil => rfl
  | cons t rest =>
    rw [if_neg (List.cons_ne_nil t rest)]
    simp [handlersOf, handlerFor]

/-- The walk is reported, and nothing is asked of the cluster. -/
theorem localHandlers_eq (hkey : r.key? = some owner) :
    r.localHandlers
      = reporting ((r.walkTargets r.spec.targets).1.map .print)
          (.done (if r.localTargets = [] then .error noLocalTargets
            else .ok (r.handlers owner))) := by
  rw [← handlersOf_walkTargets hkey]
  exact Program.tellAll_bind _ _

/-- There is a handler for each local target. -/
theorem map_ns_handlers (r : RemoteSecret) (owner : OwnerKey) :
    (r.handlers owner).map (·.target.ns) = r.localTargets.map (·.ns) := by
  unfold handlers
  rw [List.map_map]
  rfl

end RemoteSecret

namespace Command

/-! ### The parts as trees -/

/-- What a sync reports before it handles its targets. -/
def syncIntroduction (r : RemoteSecret) (owner : OwnerKey) : List Event :=
  (r.walkTargets r.spec.targets).1.map .print
    ++ [.print (syncHeadline owner (r.handlers owner).length)]

/-- What a sync does for its local targets. -/
def targetRuns (r : RemoteSecret) (owner : OwnerKey)
    (data : StoreProgram (Except ProviderError SecretData)) (recreate : Bool) :
    List (StoreProgram (Except SyncError Secret)) :=
  (r.handlers owner).map fun h => syncTarget h data recreate

/-- The outcomes of a sync by the namespaces of the local targets. -/
def outcomesOf (r : RemoteSecret) (results : List (Except SyncError Secret)) : List SyncOutcome :=
  (r.localTargets.map (·.ns)).zip results

/-- The targets that are recorded. -/
def targetsAfter (r : RemoteSecret) (outcomes : List SyncOutcome) : List TargetStatus :=
  (outcomes.foldl recordOutcome (r.status.getD {})).targets

/-- What becomes of a sync when its outcomes were recorded or not. -/
def concluded (owner : OwnerKey) (outcomes : List SyncOutcome) :
    Except ApiFailure RemoteSecret → CommandResult
  | .error e => .error ((Failure.ofApi e).within
      ("Failed to update the status of RemoteSecret '" ++ owner.toString ++ "'"))
  | .ok _ => syncResult outcomes

/-- The outcomes are told and then recorded by one request. -/
theorem concludeSync_eq (ns name : String) (r : RemoteSecret) (owner : OwnerKey)
    (outcomes : List SyncOutcome) :
    concludeSync ns name r owner outcomes
      = reporting (outcomes.map fun o => .print (outcomeLine o))
          (.request (I := clusterInterface) (.recordTargets ns name (targetsAfter r outcomes))
            fun reply => .done (concluded owner outcomes reply)) := by
  have htell := Program.tellAll_bind (I := clusterInterface)
    (outcomes.map fun o => Event.print (outcomeLine o)) fun _ =>
      (recordTargets ns name (targetsAfter r outcomes)).bind fun reply =>
        .done (concluded owner outcomes reply)
  refine Eq.trans ?_ htell
  refine congrArg (Program.bind _) (funext fun _ => ?_)
  refine congrArg (Program.bind _) (funext fun reply => ?_)
  cases reply <;> rfl

variable {order : Nat → List Nat} {ns name : String} {source : DataSource} {recreate : Bool}
  {r : RemoteSecret} {owner : OwnerKey} {data : StoreProgram (Except ProviderError SecretData)}

/-- A resource with a key, data and local targets is synced: the targets are handled side by side
and then their outcomes are recorded. -/
theorem syncFetched_eq (hkey : r.key? = some owner) (hquery : source.query r owner = .ok data)
    (hlocal : r.localTargets ≠ []) :
    syncFetched order ns name source recreate r
      = reporting (syncIntroduction r owner)
          ((onStore (Program.weave (order (r.handlers owner).length)
            (targetRuns r owner data recreate))).bind fun results =>
              concludeSync ns name r owner (outcomesOf r results)) := by
  unfold syncFetched
  simp only [hkey, hquery]
  show (Program.bind (RemoteSecret.localHandlers r) _ : ClusterProgram CommandResult) = _
  rw [RemoteSecret.localHandlers_eq hkey, if_neg hlocal, Program.reporting_bind]
  have happend : ∀ p : ClusterProgram CommandResult,
      reporting (syncIntroduction r owner) p
        = reporting ((r.walkTargets r.spec.targets).1.map .print)
            (.emit (.print (syncHeadline owner (r.handlers owner).length)) p) := fun p =>
    List.foldr_append
  rw [happend]
  refine congrArg (reporting _) (congrArg (Program.emit _) ?_)
  unfold outcomesOf
  rw [← RemoteSecret.map_ns_handlers r owner]
  rfl

/-- Any other resource is refused before a target is handled. -/
theorem syncFetched_refused (h : ¬ ∃ owner data, r.key? = some owner ∧
      source.query r owner = .ok data ∧ r.localTargets ≠ []) :
    ∃ events e, syncFetched order ns name source recreate r
      = reporting events (.done (.error e)) := by
  unfold syncFetched
  cases hkey : r.key? with
  | none => exact ⟨[], _, rfl⟩
  | some owner =>
    cases hquery : source.query r owner with
    | error e =>
      simp only [hquery]
      exact ⟨[], e, rfl⟩
    | ok data =>
      simp only [hquery]
      have hlocal : r.localTargets = [] := Classical.byContradiction fun hne =>
        h ⟨owner, data, hkey, hquery, hne⟩
      refine ⟨(r.walkTargets r.spec.targets).1.map .print, RemoteSecret.noLocalTargets, ?_⟩
      show (Program.bind (RemoteSecret.localHandlers r) _ : ClusterProgram CommandResult) = _
      rw [RemoteSecret.localHandlers_eq hkey, if_pos hlocal, Program.reporting_bind]
      rfl

/-! ### Runs -/

section
variable {σ : Type} (K : Server clusterInterface σ)

/-- What a sync goes on with after its fetch. -/
def afterFetch (order : Nat → List Nat) (ns name : String) (source : DataSource)
    (recreate : Bool) : Except ApiFailure RemoteSecret → ClusterProgram CommandResult
  | .error e => .done (.error ((Failure.ofApi e).within
      ("Failed to get RemoteSecret '" ++ ns ++ "/" ++ name ++ "'")))
  | .ok r => syncFetched order ns name source recreate r

theorem sync_eq (order : Nat → List Nat) (ns name : String) (source : DataSource)
    (recreate : Bool) :
    sync order ns name source recreate
      = .request (I := clusterInterface) (.fetch ns name)
          (afterFetch order ns name source recreate) := by
  refine congrArg (Program.request _) (funext fun reply => ?_)
  cases reply <;> rfl

/-- A sync that goes through all its parts: it fetches the resource, has its local targets handled
side by side until they all have a result, and records the outcomes. -/
structure Reaches (order : Nat → List Nat) (ns name : String) (source : DataSource)
    (recreate : Bool) (s : σ) (r : RemoteSecret) (owner : OwnerKey)
    (data : StoreProgram (Except ProviderError SecretData))
    (log : List (Nat × Step storeInterface σ)) (results : List (Except SyncError Secret)) (s' : σ) :
    Prop where
  key : r.key? = some owner
  query : source.query r owner = .ok data
  fetched : (K (.fetch ns name) s).1 = .ok r
  handled : Interleaved (storeOf K) (targetRuns r owner data recreate) (K (.fetch ns name) s).2 log
    results s'
  steps : (sync order ns name source recreate).steps K s
    = stepOf K (.fetch ns name) s :: ((log.map fun x => x.2.ofStore)
        ++ [stepOf K (.recordTargets ns name (targetsAfter r (outcomesOf r results))) s'])
  result : ((sync order ns name source recreate).run K s).result
    = concluded owner (outcomesOf r results)
        (K (.recordTargets ns name (targetsAfter r (outcomesOf r results))) s').1
  state : ((sync order ns name source recreate).run K s).state
    = (K (.recordTargets ns name (targetsAfter r (outcomesOf r results))) s').2

/-- A sync ends with a failure right after its fetch, or it goes through all its parts. -/
theorem sync_cases (order : Nat → List Nat) (ns name : String) (source : DataSource)
    (recreate : Bool) (s : σ) :
    ((sync order ns name source recreate).steps K s = [stepOf K (.fetch ns name) s] ∧
        ((sync order ns name source recreate).run K s).state = (K (.fetch ns name) s).2 ∧
        ∃ e, ((sync order ns name source recreate).run K s).result = .error e) ∨
      ∃ r owner data log results s',
        Reaches K order ns name source recreate s r owner data log results s' := by
  rw [sync_eq, Program.steps_request, Program.run_request]
  cases hfetch : (K (.fetch ns name) s).1 with
  | error e => exact .inl ⟨rfl, rfl, _, rfl⟩
  | ok r =>
    show ((_ :: (syncFetched order ns name source recreate r).steps K _) = _ ∧
      ((syncFetched order ns name source recreate r).run K _).state = _ ∧
      ∃ e, ((syncFetched order ns name source recreate r).run K _).result = .error e) ∨ _
    by_cases hready : ∃ owner data, r.key? = some owner ∧ source.query r owner = .ok data ∧
        r.localTargets ≠ []
    · obtain ⟨owner, data, hkey, hquery, hlocal⟩ := hready
      obtain ⟨log, hlog, hsteps⟩ := Program.interleaved_weave (storeOf K)
        (order (r.handlers owner).length) (targetRuns r owner data recreate)
        (K (.fetch ns name) s).2
      generalize hwoven : (Program.weave (order (r.handlers owner).length)
        (targetRuns r owner data recreate)).run (storeOf K) (K (.fetch ns name) s).2 = woven at hlog
      refine .inr ⟨r, owner, data, log, woven.result, woven.state,
        hkey, hquery, hfetch, hlog, ?_, ?_, ?_⟩
      · rw [sync_eq, Program.steps_request, hfetch]
        show _ :: (syncFetched order ns name source recreate r).steps K _ = _
        rw [syncFetched_eq hkey hquery hlocal, Program.steps_reporting, Program.steps_bind,
          steps_onStore, run_onStore, hwoven, ← hsteps, concludeSync_eq, Program.steps_reporting,
          Program.steps_request, List.map_map]
        rfl
      · rw [sync_eq, Program.run_request, hfetch]
        show ((syncFetched order ns name source recreate r).run K _).result = _
        rw [syncFetched_eq hkey hquery hlocal, Program.run_reporting, Program.run_bind,
          run_onStore, hwoven, concludeSync_eq, Program.run_reporting, Program.run_request]
        rfl
      · rw [sync_eq, Program.run_request, hfetch]
        show ((syncFetched order ns name source recreate r).run K _).state = _
        rw [syncFetched_eq hkey hquery hlocal, Program.run_reporting, Program.run_bind,
          run_onStore, hwoven, concludeSync_eq, Program.run_reporting, Program.run_request]
        rfl
    · obtain ⟨events, e, hrefused⟩ : ∃ events e, syncFetched order ns name source recreate r
          = reporting events (.done (.error e)) := syncFetched_refused hready
      rw [hrefused, Program.steps_reporting, Program.run_reporting]
      exact .inl ⟨rfl, rfl, e, rfl⟩

end

end Command

end SecretSync
