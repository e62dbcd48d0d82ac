import SecretSync.Proofs.Binding.Calls
import SecretSync.Proofs.Binding.Reads
import SecretSync.Proofs.Metrics.Counters

/-!
# `SecretSync.Proofs.Binding.Measurements`: what a handler measures

The measurements of a handler are scattered over its attempts, its fallbacks
and its ends. `measurements_materialize` puts them together: a write measures
the races that it has lost, the first of which is that of an update, and then
the secret if it was written. So however many attempts a sync makes, it
measures one outcome, and one time (`measurements_sync`). The operations that
only read measure what they have found (`measurements_getStale`,
`measurements_list`).
-/

set_option autoImplicit false

namespace SecretSync

open Program (Server)

namespace Handler

/-! ### What an attempt measures -/

/-- What is measured about an attempt to write: the secret, if it was written. -/
def writtenBy {ε : Type} (kind : WriteKind) : Except ε Secret → List Measurement
  | .ok _ => [.written kind]
  | .error _ => []

/-- The races that a write may lose, in their order. -/
def races : List Measurement := [.fellBack .update, .fellBack .create]

section
variable {σ : Type} (server : Server storeInterface σ) (h : Handler) (d : DesiredSecret) (s : σ)

theorem measurements_create :
    measurements ((h.create d).run server s).events
      = writtenBy .create ((h.create d).run server s).result := by
  cases hp : h.prepared d none with
  | error e =>
    rw [create_of_refused hp]
    rfl
  | ok secret =>
    rw [create_of_prepared hp]
    simp only [Program.run_request, Program.run_reporting, Program.run_done, List.append_nil]
    cases (server (.create h.target.ns secret) s).1 <;> rfl

theorem measurements_markingReport (stored : Secret) :
    measurements (h.markingReport d stored) = [] := by
  unfold markingReport
  split
  · rfl
  · split <;> rfl

theorem measurements_update :
    measurements ((h.update d).run server s).events
      = writtenBy .update ((h.update d).run server s).result := by
  rw [update_eq, Program.run_request]
  cases (server (.get h.target.ns d.name) s).1 with
  | error e => rfl
  | ok stored =>
    show measurements ((h.replace d stored).run server _).events
      = writtenBy .update ((h.replace d stored).run server _).result
    cases hp : h.prepared d (some stored) with
    | error e =>
      rw [replace_of_refused hp]
      rfl
    | ok secret =>
      rw [replace_of_prepared hp]
      simp only [Program.run_request, Program.run_reporting, Program.run_done, List.append_nil,
        measurements_append, measurements_markingReport, List.nil_append]
      cases (server (.update h.target.ns secret) _).1 <;> rfl

/-- A write measures the races that it has lost, and then the secret if it was written. -/
theorem measurements_materialize :
    ∃ lost kind, lost <+: races ∧ measurements ((h.materialize d).run server s).events
      = lost ++ writtenBy kind ((h.materialize d).run server s).result := by
  rw [materialize_eq]
  split
  · exact ⟨[], .create, List.nil_prefix, measurements_create server h d s⟩
  · rw [Program.run_bind]
    have hupdate := measurements_update server h d s
    generalize (h.update d).run server s = updated at hupdate ⊢
    unfold afterUpdate
    split
    · -- An update that has lost the secret has written nothing, and a creation follows.
      rename_i hlost
      obtain ⟨detail, hr⟩ := lostSecret_iff.1 hlost
      rw [hr] at hupdate
      simp only [Program.run_reporting, Program.run_bind, measurements_append, hupdate]
      have hcreate := measurements_create server h d updated.state
      generalize (h.create d).run server updated.state = created at hcreate ⊢
      unfold afterCreation
      split
      · -- The creation has found the secret and written nothing either.
        rename_i hfound
        obtain ⟨detail', hr'⟩ := foundSecret_iff.1 hfound
        rw [hr'] at hcreate
        simp only [Program.run_reporting, measurements_append, hcreate]
        exact ⟨races, .update, List.prefix_rfl,
          congrArg (races ++ ·) (measurements_update server h d created.state)⟩
      · simp only [Program.run_done, hcreate]
        exact ⟨[.fellBack .update], .create, ⟨[.fellBack .create], rfl⟩,
          congrArg (Measurement.fellBack .update :: ·) (List.append_nil _)⟩
    · simp only [Program.run_done, measurements_append, hupdate]
      exact ⟨[], .update, List.nil_prefix, List.append_nil _⟩

/-- A write without data measures nothing. -/
theorem measurements_write (recreate : Bool) (data : Except ProviderError SecretData) :
    ∃ lost kind, lost <+: races ∧ measurements ((h.write recreate data).run server s).events
      = lost ++ writtenBy kind ((h.write recreate data).run server s).result := by
  cases data with
  | error e => exact ⟨[], .create, List.nil_prefix, rfl⟩
  | ok data =>
    obtain ⟨lost, kind, hlost, hm⟩ :=
      measurements_materialize server h (h.desired recreate data) s
    rw [write_ok, Program.run_bind]
    refine ⟨lost, kind, hlost, ?_⟩
    simp only [Program.run_done, List.append_nil, hm]
    cases ((h.materialize (h.desired recreate data)).run server s).result <;> rfl

/-- After the measurements of its data provider, a sync measures the races that it has lost, the
secret if it was written, its time, and its failure if it failed. -/
theorem measurements_sync (provider : StoreProgram (Except ProviderError SecretData))
    (recreate : Bool) :
    let o := (h.sync provider recreate).run server s
    ∃ lost kind, lost <+: races ∧ measurements o.events
      = measurements (provider.run server s).events
        ++ (lost ++ (writtenBy kind o.result ++ measurements (syncReport o.result))) := by
  intro o
  have hrun : o = _ := run_sync server provider recreate s h
  obtain ⟨lost, kind, hlost, hm⟩ := measurements_write server h
    (provider.run server s).state recreate (provider.run server s).result
  refine ⟨lost, kind, hlost, ?_⟩
  rw [hrun]
  simp only [measurements_append, hm, List.append_assoc]

/-- A sync that fails fails for one of two reasons. -/
theorem reason_of_sync {provider : StoreProgram (Except ProviderError SecretData)}
    {recreate : Bool} {e : SyncError}
    (he : ((h.sync provider recreate).run server s).result = .error e) :
    e.reason = .dataFetch ∨ e.reason = .secretUpdate := by
  obtain ⟨own, events, -, -, -, -, -, -, -, hfailed⟩ :=
    sync_protocol server h provider recreate s
  rcases hfailed e he with ⟨e', -, rfl⟩ | ⟨e', rfl⟩ | ⟨e', rfl, -⟩
  · exact .inl rfl
  · exact .inr rfl
  · exact .inr rfl

/-! ### What a read measures -/

/-- Looking for a stale secret measures the one that was found. -/
theorem measurements_getStale :
    measurements (h.getStale.run server s).events
      = match (h.getStale.run server s).result with
        | .ok (some _) => [.staleFound]
        | _ => [] := by
  rw [getStale_eq]
  split
  · rfl
  · rename_i previous hprevious
    split
    · rfl
    · simp only [Program.run_request, Program.run_reporting, Program.run_done, List.append_nil]
      cases (server (.get h.target.ns previous) s).1 with
      | ok secret => rfl
      | error e => cases e <;> rfl

/-- A listing is measured if it succeeds. -/
theorem measurements_list :
    measurements (h.list.run server s).events
      = match (h.list.run server s).result with
        | .ok _ => [.listed]
        | .error _ => [] := by
  rw [list_eq]
  split
  · rfl
  · rename_i filter hfilter
    simp only [Program.run_request, Program.run_reporting, Program.run_done, List.append_nil]
    cases (server (.list h.target.ns filter) s).1 with
    | error e => rfl
    | ok candidates =>
      dsimp only [listingReport, listingAnswer]
      cases h.managedOf candidates <;> rfl

end

end Handler

end SecretSync
