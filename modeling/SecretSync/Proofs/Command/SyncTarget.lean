import SecretSync.Cluster.Basic
import SecretSync.Command.Sync
import SecretSync.Proofs.Binding.Calls
import SecretSync.Proofs.Binding.Reads
import SecretSync.Proofs.Program.Answers

/-!
# `SecretSync.Proofs.Command.SyncTarget`: what a sync calls for one target

For each target the command may look for a stale secret, asks its data source,
and writes. `TargetCalls` lists the calls that this can make, whatever they
are answered, on top of the grammar of a write. `syncTarget_calls` says that
the calls of a target follow it.

Two facts are drawn from it. Every call is in the namespace of the target or
reads the secret that the data is copied from (`TargetCalls.place`). And the
target ends well exactly with the secret that one of its calls has written
(`TargetCalls.ok_iff`).
-/

set_option autoImplicit false

namespace SecretSync

open Program (Answered)
open StoreExchange (written?)

/-- The namespace of a store request. -/
def StoreRequest.ns : StoreRequest → String
  | .get ns _ => ns
  | .create ns _ => ns
  | .update ns _ => ns
  | .list ns _ => ns

/-- The secret that a request sends to be written. -/
def StoreRequest.sent? : StoreRequest → Option Secret
  | .create _ secret => some secret
  | .update _ secret => some secret
  | .get _ _ => none
  | .list _ _ => none

/-! ### Reads -/

/-- A call that reads a secret. -/
def StoreExchange.IsRead (x : StoreExchange) : Prop := ∃ ns name, x.request = .get ns name

theorem StoreExchange.IsRead.unwritten {x : StoreExchange} (hx : x.IsRead) : written? x = none := by
  obtain ⟨r, reply⟩ := x
  obtain ⟨ns, name, rfl⟩ : ∃ ns name, r = .get ns name := hx
  rfl

theorem StoreExchange.IsRead.unsent {x : StoreExchange} (hx : x.IsRead) :
    x.request.sent? = none := by
  obtain ⟨ns, name, hr⟩ := hx
  rw [hr]
  rfl

/-- A call that reads the secret that the data of a sync is copied from. -/
def DataSource.Reads (source : DataSource) (x : StoreExchange) : Prop :=
  ∃ key : OwnerKey, source = .secret key ∧ x.request = .get key.ns key.name

theorem DataSource.Reads.isRead {source : DataSource} {x : StoreExchange}
    (hx : source.Reads x) : x.IsRead := by
  obtain ⟨key, -, hr⟩ := hx
  exact ⟨key.ns, key.name, hr⟩

/-- Of all data sources only a secret is read from the store. -/
theorem DataSource.reads_of_query {source : DataSource} {r : RemoteSecret} {owner : OwnerKey}
    {provider : StoreProgram (Except ProviderError SecretData)}
    (hquery : source.query r owner = .ok provider) {calls : List StoreExchange}
    {answer : Except ProviderError SecretData} (h : Answered provider calls answer) :
    ∀ x ∈ calls, source.Reads x := by
  -- The other sources answer from what they hold.
  have hstatic : ∀ (data : StaticData) (key : OwnerKey),
      Answered (data.provider key) calls answer → calls = [] := fun data key h => h.of_done.1
  unfold DataSource.query at hquery
  split at hquery
  · split at hquery
    · rename_i data hdata
      obtain rfl := Except.ok.inj hquery
      rw [hstatic data owner h]
      exact List.forall_mem_nil _
    · cases hquery
  · rename_i key
    obtain rfl := Except.ok.inj hquery
    obtain ⟨reply, rest, rfl, hrest⟩ := Answered.of_request (I := storeInterface) h
    have hnil : rest = [] := by
      cases reply with
      | error e => exact hrest.of_done.1
      | ok secret => exact (Answered.of_emit hrest).of_done.1
    rw [hnil]
    intro x hx
    obtain rfl := List.mem_singleton.1 hx
    exact ⟨key, rfl, rfl⟩
  · split at hquery
    · rename_i data hdata
      obtain rfl := Except.ok.inj hquery
      rw [hstatic _ owner h]
      exact List.forall_mem_nil _
    · cases hquery

namespace Handler

variable {h : Handler}

/-- Looking for a stale secret reads at most one, in the namespace of the target. -/
theorem getStale_calls {calls : List StoreExchange} {answer : Except SyncError (Option Secret)}
    (hans : Answered h.getStale calls answer) :
    ∀ x ∈ calls, ∃ previous, x.request = .get h.target.ns previous := by
  rw [getStale_eq] at hans
  split at hans
  · rw [hans.of_done.1]
    exact List.forall_mem_nil _
  · rename_i previous hprevious
    split at hans
    · rw [hans.of_done.1]
      exact List.forall_mem_nil _
    · obtain ⟨reply, rest, rfl, hrest⟩ := hans.of_request
      obtain ⟨rfl, -⟩ := hrest.of_reporting.of_done
      intro x hx
      obtain rfl := List.mem_singleton.1 hx
      exact ⟨previous, rfl⟩

/-! ### Places -/

variable {d : DesiredSecret} {calls : List StoreExchange} {r : Except SyncFault Secret}

/-- A write stays in the namespace of the target. -/
theorem WriteCalls.place (hw : WriteCalls h d calls r) :
    ∀ x ∈ calls, x.request.ns = h.target.ns := by
  have hns : ∀ q : StoreRequest, (Cluster.callOf q).ns = q.ns := by
    intro q
    cases q <;> rfl
  intro x hx
  rw [← hns]
  exact hw.namespace x hx

/-- The calls of a write, wherever it was answered. -/
theorem SyncCalls.of_answered {recreate : Bool} {data : Except ProviderError SecretData}
    {result : Except SyncError Secret} (hans : Answered (h.write recreate data) calls result) :
    SyncCalls h recreate data calls result := by
  have hcalls := write_calls (Program.replay (Cluster.failed (.other ""))) h recreate data calls
  obtain ⟨hexchanges, hresult⟩ := hans.exists_run (Cluster.failed (.other ""))
  rw [hexchanges, hresult] at hcalls
  exact hcalls

/-! ### The calls for one target -/

/-- A call before the write: it looks for a stale secret, or it reads the data. -/
def Looks (h : Handler) (source : DataSource) (x : StoreExchange) : Prop :=
  (∃ previous, x.request = .get h.target.ns previous) ∨ source.Reads x

theorem Looks.place {source : DataSource} {x : StoreExchange} (hx : Looks h source x) :
    x.request.ns = h.target.ns ∨ source.Reads x := by
  rcases hx with ⟨previous, hr⟩ | hs
  · exact .inl (by rw [hr]; rfl)
  · exact .inr hs

theorem Looks.isRead {source : DataSource} {x : StoreExchange} (hx : Looks h source x) :
    x.IsRead := by
  rcases hx with ⟨previous, hr⟩ | hs
  · exact ⟨_, previous, hr⟩
  · exact hs.isRead

theorem Looks.unwritten {source : DataSource} {x : StoreExchange} (hx : Looks h source x) :
    written? x = none := hx.isRead.unwritten

/-- The calls of a sync for one target, and what the target ends with. -/
inductive TargetCalls (h : Handler) (source : DataSource) (recreate : Bool) :
    List StoreExchange → Except SyncError Secret → Prop
  /-- The target ends before it writes: the stale secret could not be looked for, or there is no
  data. -/
  | stopped (reads : List StoreExchange) (e : SyncError) (hreads : ∀ x ∈ reads, Looks h source x) :
      TargetCalls h source recreate reads (.error e)
  /-- The secret is written. -/
  | written (reads own : List StoreExchange) (data : SecretData) (r : Except SyncFault Secret)
      (hreads : ∀ x ∈ reads, Looks h source x)
      (hw : WriteCalls h (h.desired recreate data) own r) :
      TargetCalls h source recreate (reads ++ own) (r.mapError h.failure)

variable {source : DataSource} {recreate : Bool} {result : Except SyncError Secret}
  {provider : StoreProgram (Except ProviderError SecretData)}

/-- What may be read before the write. -/
theorem TargetCalls.prepend {reads : List StoreExchange}
    (hreads : ∀ x ∈ reads, ∃ previous, x.request = .get h.target.ns previous)
    (ht : TargetCalls h source recreate calls result) :
    TargetCalls h source recreate (reads ++ calls) result := by
  have hmore : ∀ {reads' : List StoreExchange}, (∀ x ∈ reads', Looks h source x) →
      ∀ x ∈ reads ++ reads', Looks h source x :=
    fun h' => List.forall_mem_append.2 ⟨fun x hx => .inl (hreads x hx), h'⟩
  cases ht with
  | stopped _ e h' => exact .stopped _ e (hmore h')
  | written reads' own data r h' hw =>
    rw [← List.append_assoc]
    exact .written _ own data r (hmore h') hw

theorem sync_targetCalls
    (hprovider : ∀ (calls : List StoreExchange) answer, Answered provider calls answer →
      ∀ x ∈ calls, source.Reads x)
    (hans : Answered (h.sync provider recreate) calls result) :
    TargetCalls h source recreate calls result := by
  rw [sync_eq] at hans
  obtain ⟨reads, rest, data, rfl, hdata, hrest⟩ := hans.of_bind
  obtain ⟨own, tail, written, rfl, hwrite, htail⟩ := hrest.of_bind
  obtain ⟨rfl, rfl⟩ := htail.of_reporting.of_done
  rw [List.append_nil]
  have hreads : ∀ x ∈ reads, Looks h source x := fun x hx => .inr (hprovider reads data hdata x hx)
  cases SyncCalls.of_answered hwrite with
  | unavailable e =>
    rw [List.append_nil]
    exact .stopped reads _ hreads
  | written data _ r hw => exact .written reads own data r hreads hw

/-- Whatever they are answered, the calls of a sync for one target follow the grammar. -/
theorem syncTarget_calls {resource : RemoteSecret} {owner : OwnerKey}
    (hquery : source.query resource owner = .ok provider)
    (hans : Answered (Command.syncTarget h provider recreate) calls result) :
    TargetCalls h source recreate calls result := by
  have hprovider : ∀ (calls : List StoreExchange) answer, Answered provider calls answer →
      ∀ x ∈ calls, source.Reads x := fun _ _ hans => DataSource.reads_of_query hquery hans
  unfold Command.syncTarget at hans
  split at hans
  · obtain ⟨reads, rest, stale, rfl, hstale, hrest⟩ := hans.of_bind
    refine TargetCalls.prepend (getStale_calls hstale) ?_
    cases stale with
    | error e =>
      obtain ⟨rfl, rfl⟩ := hrest.of_done
      exact .stopped [] e (List.forall_mem_nil _)
    | ok stale =>
      cases stale with
      | none => exact sync_targetCalls hprovider hrest
      | some secret =>
        exact sync_targetCalls hprovider (Answered.of_emit hrest)
  · exact sync_targetCalls hprovider hans

/-- Every call for a target is in its namespace, or reads the secret that the data is copied
from. -/
theorem TargetCalls.place (ht : TargetCalls h source recreate calls result) :
    ∀ x ∈ calls, x.request.ns = h.target.ns ∨ source.Reads x := by
  cases ht with
  | stopped _ e hreads => exact fun x hx => (hreads x hx).place
  | written reads own data r hreads hw =>
    exact List.forall_mem_append.2
      ⟨fun x hx => (hreads x hx).place, fun x hx => .inl (hw.place x hx)⟩

/-- A target ends well exactly with the secret that one of its calls has written. -/
theorem TargetCalls.ok_iff (ht : TargetCalls h source recreate calls result) (secret : Secret) :
    result = .ok secret ↔ ∃ x ∈ calls, written? x = some secret := by
  cases ht with
  | stopped _ e hreads =>
    constructor
    · intro h
      cases h
    · rintro ⟨x, hx, hw⟩
      rw [(hreads x hx).unwritten] at hw
      cases hw
  | written reads own data r hreads hw =>
    have haccounts := hw.accounts
    have hok : r.mapError h.failure = .ok secret ↔ r = .ok secret := by
      cases r <;> simp [Except.mapError]
    rw [hok, haccounts.written]
    constructor
    · intro hlast
      obtain ⟨x, hx, hx'⟩ := Option.bind_eq_some_iff.1 hlast
      exact ⟨x, List.mem_append_right _ (List.mem_of_getLast? hx), hx'⟩
    · rintro ⟨x, hx, hx'⟩
      -- It is none of the reads and no early call of the write, so it is the last call.
      rcases List.mem_append.1 hx with hx | hx
      · rw [(hreads x hx).unwritten] at hx'
        cases hx'
      · cases hlast : own.getLast? with
        | none =>
          rw [List.getLast?_eq_none_iff.1 hlast] at hx
          cases hx
        | some last =>
          obtain ⟨early, rfl⟩ := List.getLast?_eq_some_iff.1 hlast
          rcases List.mem_append.1 hx with hx | hx
          · rw [haccounts.early x (by simpa using hx)] at hx'
            cases hx'
          · obtain rfl := List.mem_singleton.1 hx
            exact hx'

end Handler

end SecretSync
