import SecretSync.Proofs.Binding.Measurements

/-!
# `SecretSync.Proofs.Binding.Accounting`: the counters account for every call

Handlers are called to sync, to look for a stale secret, or to list. An
`Operation` is such a call on some store. Each is accounted for by its
measurements (`Operation.tallies`): a sync measures one time and one outcome,
and it loses the race of a creation only after that of an update.

`counters_account` is the main statement. After any operations of any handlers,
on any stores, the counters say how many of the calls ended in each way.
-/

set_option autoImplicit false

namespace SecretSync

open Program (Server Outcome)

/-- A call of a handler. -/
inductive HandlerCall where
  | sync (h : Handler) (provider : StoreProgram (Except ProviderError SecretData))
      (recreate : Bool)
  | getStale (h : Handler)
  | list (h : Handler)

namespace HandlerCall

/-- What a call of a handler ends with. -/
inductive Result where
  | synced (r : Except SyncError Secret)
  | looked (r : Except SyncError (Option Secret))
  | listed (r : Except SyncError (List Secret))

namespace Result

/-- Whether the call was a sync. -/
@[simp] def isSync : Result → Bool
  | .synced _ => true
  | _ => false

/-- Whether the call was a sync that wrote its secret. -/
@[simp] def isWritten : Result → Bool
  | .synced (.ok _) => true
  | _ => false

/-- Whether the call was a sync that failed. -/
@[simp] def isFailedSync : Result → Bool
  | .synced (.error _) => true
  | _ => false

/-- Whether the call found a stale secret. -/
@[simp] def isStaleFound : Result → Bool
  | .looked (.ok (some _)) => true
  | _ => false

/-- Whether the call listed the secrets of the owner. -/
@[simp] def isListed : Result → Bool
  | .listed (.ok _) => true
  | _ => false

end Result

/-- The program of a call. -/
def program : HandlerCall → StoreProgram Result
  | .sync h provider recreate => (h.sync provider recreate).bind fun r => .done (.synced r)
  | .getStale h => h.getStale.bind fun r => .done (.looked r)
  | .list h => h.list.bind fun r => .done (.listed r)

end HandlerCall

/-- A call of a handler, with the store that answers it and the state in which the store is. -/
structure Operation where
  call : HandlerCall
  State : Type
  store : Server storeInterface State
  state : State

namespace Operation

/-- How an operation goes. -/
def outcome (op : Operation) : Outcome op.State HandlerCall.Result :=
  op.call.program.run op.store op.state

/-- What an operation measures. -/
def measured (op : Operation) : List Measurement := measurements op.outcome.events

/-- The data provider of a sync measures nothing itself. -/
def PlainProvider (op : Operation) : Prop :=
  match op.call with
  | .sync _ provider _ => measurements (provider.run op.store op.state).events = []
  | _ => True

/-- Copying a secret measures nothing, whatever store it is read from. -/
theorem plainProvider_sourceSecret (h : Handler) (key : OwnerKey) (recreate : Bool) {σ : Type}
    (store : Server storeInterface σ) (s : σ) :
    PlainProvider ⟨.sync h (DataProvider.sourceSecret key) recreate, σ, store, s⟩ := by
  have hrun : DataProvider.sourceSecret key = .request (I := storeInterface) (.get key.ns key.name) _ :=
    rfl
  show measurements ((DataProvider.sourceSecret key).run store s).events = []
  rw [hrun, Program.run_request]
  cases (store (.get key.ns key.name) s).1 <;> rfl

end Operation

/-- Some measurements tally with a call that ended with a result. -/
structure Tallies (xs : List Measurement) (r : HandlerCall.Result) : Prop where
  timed : xs.countP (· == .syncTimed) = r.isSync.toNat
  written : xs.countP Measurement.isWritten = r.isWritten.toNat
  failed : xs.countP Measurement.isSyncFailed = r.isFailedSync.toNat
  /-- A sync fails for one of two reasons. -/
  reason : ∀ label, .syncFailed label ∈ xs →
    label = ErrorReason.dataFetch.text ∨ label = ErrorReason.secretUpdate.text
  /-- A creation loses a race only after an update has lost one. -/
  races : xs.countP (· == .fellBack .create) ≤ xs.countP (· == .fellBack .update)
  raced : xs.countP (· == .fellBack .update) ≤ r.isSync.toNat
  stale : xs.countP (· == .staleFound) = r.isStaleFound.toNat
  listed : xs.countP (· == .listed) = r.isListed.toNat

/-- The races that a sync has lost are none, that of an update, or both. -/
theorem lost_cases {lost : List Measurement} (h : lost <+: Handler.races) :
    lost = [] ∨ lost = [.fellBack .update] ∨ lost = [.fellBack .update, .fellBack .create] := by
  have hlength : lost.length ≤ 2 := h.length_le
  have htake := List.prefix_iff_eq_take.1 h
  rw [htake]
  match lost.length, hlength with
  | 0, _ => exact .inl rfl
  | 1, _ => exact .inr (.inl rfl)
  | 2, _ => exact .inr (.inr rfl)

/-- The measurements of a sync that has written, whatever races it has lost before. -/
theorem tallies_written {lost : List Measurement} (hlost : lost <+: Handler.races)
    (kind : WriteKind) (secret : Secret) :
    Tallies (lost ++ [.written kind, .syncTimed]) (.synced (.ok secret)) := by
  rcases lost_cases hlost with rfl | rfl | rfl
  all_goals constructor <;> simp [List.countP_cons]

/-- The measurements of a sync that fails, whatever races it has lost before. -/
theorem tallies_failed {lost : List Measurement} (hlost : lost <+: Handler.races)
    {e : SyncError} (he : e.reason = .dataFetch ∨ e.reason = .secretUpdate) :
    Tallies (lost ++ [.syncTimed, .syncFailed e.reason.text]) (.synced (.error e)) := by
  have hlabel : e.reason.text = ErrorReason.dataFetch.text ∨
      e.reason.text = ErrorReason.secretUpdate.text := he.imp (congrArg _) (congrArg _)
  rcases lost_cases hlost with rfl | rfl | rfl
  all_goals constructor <;> simp [List.countP_cons, hlabel]

namespace Operation

/-- What an operation measures tallies with how it ended. -/
theorem tallies {op : Operation} (hop : op.PlainProvider) :
    Tallies op.measured op.outcome.result := by
  obtain ⟨call, State, store, state⟩ := op
  unfold measured outcome HandlerCall.program
  cases call with
  | sync h provider recreate =>
    have hplain : measurements (provider.run store state).events = [] := hop
    obtain ⟨lost, kind, hlost, hm⟩ := Handler.measurements_sync store h state provider recreate
    have hreason : ∀ e, ((h.sync provider recreate).run store state).result = .error e →
        e.reason = .dataFetch ∨ e.reason = .secretUpdate := by
      intro e he
      exact Handler.reason_of_sync store h state he
    simp only [Program.run_bind, Program.run_done, List.append_nil]
    rw [hm, hplain, List.nil_append]
    cases hr : ((h.sync provider recreate).run store state).result with
    | ok secret => exact tallies_written hlost kind secret
    | error e => exact tallies_failed hlost (hreason e hr)
  | getStale h =>
    simp only [Program.run_bind, Program.run_done, List.append_nil]
    rw [Handler.measurements_getStale]
    cases (h.getStale.run store state).result with
    | error e => constructor <;> simp
    | ok found => cases found <;> constructor <;> simp
  | list h =>
    simp only [Program.run_bind, Program.run_done, List.append_nil]
    rw [Handler.measurements_list]
    cases (h.list.run store state).result <;> constructor <;> simp

/-- What several operations measure. -/
theorem measurements_flatMap (ops : List Operation) :
    measurements (ops.flatMap fun op => op.outcome.events) = ops.flatMap measured := by
  induction ops with
  | nil => rfl
  | cons op rest ih => rw [List.flatMap_cons, measurements_append, ih, List.flatMap_cons]; rfl

/-- If every operation measures something once or not at all, all of them measure it as often as
there are operations that do. -/
theorem countP_measured {p : Measurement → Bool} {q : HandlerCall.Result → Bool}
    {ops : List Operation} (h : ∀ op ∈ ops, op.measured.countP p = (q op.outcome.result).toNat) :
    (ops.flatMap measured).countP p = (ops.map fun op => op.outcome.result).countP q := by
  induction ops with
  | nil => rfl
  | cons op rest ih =>
    have hrest := ih fun op' hop => h op' (List.mem_cons_of_mem _ hop)
    have hop := h op List.mem_cons_self
    rw [List.flatMap_cons, List.countP_append, hrest, hop, List.map_cons, List.countP_cons]
    cases q op.outcome.result <;> simp [Nat.add_comm]

/-- If every operation measures one thing at most as often as another, so do all of them. -/
theorem countP_measured_le {p p' : Measurement → Bool} {ops : List Operation}
    (h : ∀ op ∈ ops, op.measured.countP p ≤ op.measured.countP p') :
    (ops.flatMap measured).countP p ≤ (ops.flatMap measured).countP p' := by
  induction ops with
  | nil => exact Nat.le_refl _
  | cons op rest ih =>
    have hrest := ih fun op' hop => h op' (List.mem_cons_of_mem _ hop)
    have hop := h op List.mem_cons_self
    rw [List.flatMap_cons, List.countP_append, List.countP_append]
    omega

end Operation

/-- A sync either has written or has failed. -/
theorem HandlerCall.Result.countP_isSync (results : List HandlerCall.Result) :
    results.countP (·.isWritten) + results.countP (·.isFailedSync)
      = results.countP (·.isSync) := by
  induction results with
  | nil => rfl
  | cons r rest ih =>
    simp only [List.countP_cons, ← ih]
    rcases r with (e | secret) | r | r <;> simp <;> omega

open Metrics (total)

/-- The counters after any operations, starting from zero. Every sync is timed once. It is counted
once, as written or as failed, and a failure is counted under one of two reasons. A creation loses
its race at most as often as an update, and an update at most once in a sync. What was found stale
and what was listed is counted as often as it happened. -/
theorem counters_account (ops : List Operation) (hops : ∀ op ∈ ops, op.PlainProvider) :
    let m := Metrics.empty.countAll (ops.flatMap fun op => op.outcome.events)
    let results := ops.map fun op => op.outcome.result
    m.times.total = results.countP (·.isSync) ∧
      total m.written = results.countP (·.isWritten) ∧
      total m.failed = results.countP (·.isFailedSync) ∧
      total m.written + total m.failed = m.times.total ∧
      (∀ label, m.failed.contains label = true →
        label = ErrorReason.dataFetch.text ∨ label = ErrorReason.secretUpdate.text) ∧
      m.fallbacks .create ≤ m.fallbacks .update ∧
      m.fallbacks .update ≤ results.countP (·.isSync) ∧
      m.stale = results.countP (·.isStaleFound) ∧
      m.listings = results.countP (·.isListed) := by
  intro m results
  have htallies : ∀ op ∈ ops, Tallies op.measured op.outcome.result := by
    intro op hop
    exact Operation.tallies (hops op hop)
  -- A counter that starts from zero is the number of its measurements.
  have hreading : ∀ {reading : Metrics → Nat} {p : Measurement → Bool}, Metrics.Counts reading p →
      reading .empty = 0 → reading m = (ops.flatMap Operation.measured).countP p := by
    intro reading p hcounts hzero
    rw [hcounts.countAll, hzero, Nat.zero_add, Operation.measurements_flatMap]
  have hcounted : ∀ {reading : Metrics → Nat} {p : Measurement → Bool}
      {q : HandlerCall.Result → Bool}, Metrics.Counts reading p → reading .empty = 0 →
      (∀ op ∈ ops, op.measured.countP p = (q op.outcome.result).toNat) →
      reading m = results.countP q := by
    intro reading p q hcounts hzero h
    rw [hreading hcounts hzero]
    exact Operation.countP_measured h
  have htimed := hcounted (q := (·.isSync)) Metrics.counts_timed rfl
    fun op hop => (htallies op hop).timed
  have hwritten := hcounted (q := (·.isWritten)) Metrics.counts_written rfl
    fun op hop => (htallies op hop).written
  have hfailed := hcounted (q := (·.isFailedSync)) Metrics.counts_failed rfl
    fun op hop => (htallies op hop).failed
  refine ⟨htimed, hwritten, hfailed, ?_, ?_, ?_, ?_, ?_, ?_⟩
  · rw [hwritten, hfailed, htimed]
    exact HandlerCall.Result.countP_isSync results
  · intro label hlabel
    -- No label is there at the start, so the failure was measured by one of the operations.
    rcases Metrics.label_of_countAll hlabel with hstart | hmeasured
    · cases hstart
    · rw [Operation.measurements_flatMap] at hmeasured
      obtain ⟨op, hop, hx⟩ := List.mem_flatMap.1 hmeasured
      exact (htallies op hop).reason label hx
  · rw [hreading (Metrics.counts_fallbacks .create) rfl,
      hreading (Metrics.counts_fallbacks .update) rfl]
    exact Operation.countP_measured_le fun op hop => (htallies op hop).races
  · -- An operation that loses the race of an update is timed.
    rw [← htimed, hreading (Metrics.counts_fallbacks .update) rfl,
      hreading Metrics.counts_timed rfl]
    refine Operation.countP_measured_le fun op hop => ?_
    rw [(htallies op hop).timed]
    exact (htallies op hop).raced
  · exact hcounted Metrics.counts_stale rfl fun op hop => (htallies op hop).stale
  · exact hcounted Metrics.counts_listings rfl fun op hop => (htallies op hop).listed

/-! ### A store that loses every race -/

/-- A store in which every secret is gone when it is read and taken when it is created. -/
def elusive : Server storeInterface Unit := fun r _ =>
  match r with
  | .create ns secret => (.error (.alreadyExists (ns ++ "/" ++ secret.name)), ())
  | .get ns name => (.error (.notFound (ns ++ "/" ++ name)), ())
  | .update ns secret => (.error (.notFound (ns ++ "/" ++ secret.name)), ())
  | .list _ _ => (.ok [], ())

/-- A handler of a secret with a fixed name. -/
def elusiveHandler : Handler := ⟨.inNamespace { name := "db" } "app" ⟨"team", "creds"⟩ "", .ofTags⟩

/-- A sync that loses both races, one whose source is missing, and a listing. -/
def elusiveOperations : List Operation :=
  [⟨.sync elusiveHandler (.done (.ok .empty)) false, Unit, elusive, ()⟩,
    ⟨.sync elusiveHandler (DataProvider.sourceSecret ⟨"app", "source"⟩) false, Unit, elusive, ()⟩,
    ⟨.list elusiveHandler, Unit, elusive, ()⟩]

/-- Both syncs are timed and fail, one after both fallbacks, and the listing is counted. -/
theorem counters_account_elusive :
    let m := Metrics.empty.countAll (elusiveOperations.flatMap fun op => op.outcome.events)
    (∀ op ∈ elusiveOperations, op.PlainProvider) ∧ m.times.total = 2 ∧ total m.written = 0 ∧
      total m.failed = 2 ∧ m.fallbacks .create ≤ m.fallbacks .update ∧ m.fallbacks .update ≤ 2 ∧
      m.listings = 1 := by
  have hplain : ∀ op ∈ elusiveOperations, op.PlainProvider := by
    intro op hop
    rcases List.mem_cons.1 hop with rfl | hop
    · rfl
    · rcases List.mem_pair.1 hop with rfl | rfl
      · exact Operation.plainProvider_sourceSecret _ _ _ _ _
      · trivial
  obtain ⟨htimed, hwritten, hfailed, -, -, hraces, hraced, -, hlisted⟩ :=
    counters_account elusiveOperations hplain
  have hsyncs : (elusiveOperations.map fun op => op.outcome.result).countP (·.isSync) = 2 := by
    decide +kernel
  rw [hsyncs] at htimed hraced
  refine ⟨hplain, htimed, hwritten.trans ?_, hfailed.trans ?_, hraces, hraced, hlisted.trans ?_⟩
  all_goals decide +kernel

end SecretSync
