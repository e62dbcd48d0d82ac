import SecretSync.Proofs.Binding.Attempts
import SecretSync.Proofs.Binding.Reads
import SecretSync.Proofs.Program.Refinement
import SecretSync.Proofs.Store.Kinds

/-!
# `SecretSync.Proofs.Binding.Refinement`: handlers do not look at words

A handler decides by the kinds of failures what to do next. So two stores
whose replies are the same up to the words of failures lead it through the
same requests and the same reports, and to results that are the same up to
these words: `kindred_sync`, `kindred_getStale` and `kindred_list`.

A sync needs a data provider that does not look at words either. The two that
there are do not (`StaticData.kindred_provider`,
`DataProvider.kindred_sourceSecret`).
-/

set_option autoImplicit false

namespace SecretSync

open Program (Kindred)

/-! ### Failures that quote failures of a store -/

/-- Two failures of a data provider that are the same up to the words of a store. -/
inductive ProviderError.Alike : ProviderError → ProviderError → Prop
  | refl (e : ProviderError) : Alike e e
  | store {e e' : StoreError} (h : e.Alike e') : Alike (.store e) (.store e')

/-- Two faults of a target that are the same up to the words of a store. -/
inductive SyncFault.Alike : SyncFault → SyncFault → Prop
  | refl (f : SyncFault) : Alike f f
  | dataFetch {e e' : ProviderError} (h : e.Alike e') : Alike (.dataFetch e) (.dataFetch e')
  | secretUpdate {e e' : StoreError} (h : e.Alike e') :
      Alike (.secretUpdate e) (.secretUpdate e')
  | staleDetection (ns secretName : String) {e e' : StoreError} (h : e.Alike e') :
      Alike (.staleDetection ns secretName e) (.staleDetection ns secretName e')
  | list {e e' : StoreError} (h : e.Alike e') : Alike (.list (.store e)) (.list (.store e'))

/-- Two failures of the same target for the same reason, which differ in the words of a store. -/
structure SyncError.Alike (e e' : SyncError) : Prop where
  target : e.target = e'.target
  targetKind : e.targetKind = e'.targetKind
  reason : e.reason = e'.reason
  fault : e.fault.Alike e'.fault

/-- The reason of a fault is not in its words. -/
theorem SyncFault.Alike.reason_eq {f f' : SyncFault} (h : f.Alike f') : f.reason = f'.reason := by
  cases h <;> rfl

theorem SyncFault.Alike.failure {f f' : SyncFault} (h : f.Alike f') (handler : Handler) :
    (handler.failure f).Alike (handler.failure f') := ⟨rfl, rfl, h.reason_eq, h⟩

/-- Programs that ask a store and do not look at words. -/
abbrev StoreKindred {ε α : Type} (E : ε → ε → Prop) (p q : StoreProgram (Except ε α)) : Prop :=
  Kindred SameReply (SameUpTo E) p q

namespace Handler

variable {h : Handler} {d : DesiredSecret}

/-! ### Writing -/

theorem kindred_create : StoreKindred SyncFault.Alike (h.create d) (h.create d) := by
  cases hp : h.prepared d none with
  | error e =>
    rw [create_of_refused hp]
    exact .done (.error (.refl _))
  | ok secret =>
    rw [create_of_prepared hp]
    refine .request _ _ _ fun reply reply' hreply => ?_
    cases hreply with
    | ok created => exact (Kindred.done (.ok created)).reporting _
    | error he => exact .done (.error (.secretUpdate he))

theorem kindred_replace (stored : Secret) :
    StoreKindred SyncFault.Alike (h.replace d stored) (h.replace d stored) := by
  cases hp : h.prepared d (some stored) with
  | error e =>
    rw [replace_of_refused hp]
    exact .done (.error (.refl _))
  | ok secret =>
    rw [replace_of_prepared hp]
    refine Kindred.reporting ?_ _
    refine .request _ _ _ fun reply reply' hreply => ?_
    cases hreply with
    | ok updated => exact (Kindred.done (.ok updated)).reporting _
    | error he => exact .done (.error (.secretUpdate he))

theorem kindred_update : StoreKindred SyncFault.Alike (h.update d) (h.update d) := by
  rw [update_eq]
  refine .request _ _ _ fun reply reply' hreply => ?_
  cases hreply with
  | ok stored => exact kindred_replace stored
  | error he => exact .done (.error (.secretUpdate he))

section
variable {written written' : Except SyncFault Secret}

/-- Whether the secret was lost is a matter of the kind. -/
theorem lostSecret_congr (hw : SameUpTo SyncFault.Alike written written') :
    lostSecret written = lostSecret written' := by
  cases hw with
  | ok _ => rfl
  | error hf =>
    cases hf with
    | secretUpdate he => exact he.isNotFound_eq
    | _ => rfl

/-- Whether the secret was found is a matter of the kind. -/
theorem foundSecret_congr (hw : SameUpTo SyncFault.Alike written written') :
    foundSecret written = foundSecret written' := by
  cases hw with
  | ok _ => rfl
  | error hf =>
    cases hf with
    | secretUpdate he => exact he.isAlreadyExists_eq
    | _ => rfl

theorem kindred_afterCreation (hw : SameUpTo SyncFault.Alike written written') :
    StoreKindred SyncFault.Alike (h.afterCreation d written) (h.afterCreation d written') := by
  unfold afterCreation
  rw [foundSecret_congr hw]
  split
  · exact kindred_update.reporting _
  · exact .done hw

theorem kindred_afterUpdate (hw : SameUpTo SyncFault.Alike written written') :
    StoreKindred SyncFault.Alike (h.afterUpdate d written) (h.afterUpdate d written') := by
  unfold afterUpdate
  rw [lostSecret_congr hw]
  split
  · exact (kindred_create.bind fun _ _ => kindred_afterCreation).reporting _
  · exact .done hw

end

theorem kindred_materialize : StoreKindred SyncFault.Alike (h.materialize d) (h.materialize d) := by
  rw [materialize_eq]
  split
  · exact kindred_create
  · exact kindred_update.bind fun _ _ => kindred_afterUpdate

variable {recreate : Bool}

theorem kindred_write {data data' : Except ProviderError SecretData}
    (hdata : SameUpTo ProviderError.Alike data data') :
    StoreKindred SyncError.Alike (h.write recreate data) (h.write recreate data') := by
  cases hdata with
  | ok data =>
    rw [write_ok]
    exact kindred_materialize.bind fun _ _ hw => .done (hw.mapError fun hf => hf.failure h)
  | error he => exact .done (.error (SyncFault.Alike.failure (.dataFetch he) h))

/-- A sync does not look at words if its data provider does not. -/
theorem kindred_sync {provider : StoreProgram (Except ProviderError SecretData)}
    (hprovider : StoreKindred ProviderError.Alike provider provider) :
    StoreKindred SyncError.Alike (h.sync provider recreate) (h.sync provider recreate) := by
  rw [sync_eq]
  refine hprovider.bind fun _ _ hdata => (kindred_write hdata).bind fun result result' hresult => ?_
  -- The report at the end has the reason of a failure, but not its words.
  have hreport : syncReport result = syncReport result' := by
    cases hresult with
    | ok _ => rfl
    | error he => simp only [syncReport, he.reason]
  rw [hreport]
  exact (Kindred.done hresult).reporting _

/-! ### Reading -/

/-- Looking for a stale secret does not look at words. -/
theorem kindred_getStale : StoreKindred SyncError.Alike h.getStale h.getStale := by
  rw [getStale_eq]
  split
  · exact .done (.ok none)
  · split
    · exact .done (.ok none)
    · refine .request _ _ _ fun reply reply' hreply => ?_
      cases hreply with
      | ok secret => exact (Kindred.done (.ok (some secret))).reporting _
      | error he =>
        unfold staleReport staleAnswer
        dsimp only
        rw [he.isNotFound_eq]
        split
        · exact .emit _ (.done (.ok none))
        · exact .done (.error (SyncFault.Alike.failure (.staleDetection _ _ he) h))

/-- Listing does not look at words. -/
theorem kindred_list : StoreKindred SyncError.Alike h.list h.list := by
  rw [list_eq]
  cases h.marker.managedFilter h.target.owner with
  | error e => exact .done (.error (SyncFault.Alike.failure (.refl _) h))
  | ok filter =>
    refine .request _ _ _ fun reply reply' hreply => ?_
    cases hreply with
    | ok candidates =>
      refine Kindred.reporting ?_ _
      -- The same candidates are looked at, so the answer is the same to the word.
      simp only [listingAnswer]
      cases h.managedOf candidates with
      | ok managed => exact .done (.ok managed)
      | error e => exact .done (.error (SyncFault.Alike.failure (.refl _) h))
    | error he => exact .done (.error (SyncFault.Alike.failure (.list he) h))

end Handler

/-! ### Data providers -/

/-- Data in memory come without a request. -/
theorem StaticData.kindred_provider (data : StaticData) (key : OwnerKey) :
    StoreKindred ProviderError.Alike (data.provider key) (data.provider key) := by
  unfold provider
  split
  · exact .done (.ok _)
  · exact .done (.error (.refl _))

/-- Copying a secret does not look at words. -/
theorem DataProvider.kindred_sourceSecret (key : OwnerKey) :
    StoreKindred ProviderError.Alike (sourceSecret key) (sourceSecret key) := by
  refine .request _ _ _ fun reply reply' hreply => ?_
  cases hreply with
  | ok secret => exact .emit _ (.done (.ok secret.contents))
  | @error e e' he =>
    show StoreKindred ProviderError.Alike
      (.done (.error (if e.isNotFound then .notFound key.toString else .store e)))
      (.done (.error (if e'.isNotFound then .notFound key.toString else .store e')))
    rw [he.isNotFound_eq]
    split
    · exact .done (.error (.refl _))
    · exact .done (.error (.store he))

end SecretSync
