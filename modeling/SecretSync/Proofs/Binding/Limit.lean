import SecretSync.Proofs.Binding.Effect
import SecretSync.Proofs.Binding.FixedPoint
import SecretSync.Proofs.Binding.WantedTags
import SecretSync.Proofs.Cluster.Namespaces
import SecretSync.Proofs.Ownership.Limit

/-!
# `SecretSync.Proofs.Binding.Limit`: what a sync sends and the limit

Nothing in a sync looks at the size of annotations but marking, and marking only
where it changes the tags. `Fits` is what comes of this: a wanted secret passes
over a stored one if the annotations are within the limit once it is marked, or
if the owner manages it already with everything wanted put over it, whatever
their size. `prepared_of_not_fits` says that it is refused otherwise.

`sync_limit` follows this along the calls of a sync, for any store. What does
not fit over what was read is not sent, and the sync ends there (`EndsAt`). The
same holds of what is to be created.

So the annotations can leave the limit in one way only. A spec that is refused
for a new secret, or for one that the owner does not manage yet, is sent for one
that it manages (`sync_sends_oversized`).
-/

set_option autoImplicit false

namespace SecretSync

namespace Handler

open Program (Server)
open StoreExchange (failure?)
open MarkerCall (filler utf8ByteSize_filler)
open Cluster (storeServer)

variable {t : DeploymentTarget} {d : DesiredSecret} {stored : Option Secret}

/-! ### What passes -/

/-- The bytes of the annotations of the wanted secret, put over a stored one or over nothing, once
it is marked. -/
def markedBytes (t : DeploymentTarget) (d : DesiredSecret) (stored : Option Secret) : Nat :=
  annotationBytes ((Tags.ofStored stored).marked d.spec t.owner.toString).annotations

/-- What marking refuses annotations with that are too large. -/
def tooLarge (t : DeploymentTarget) (d : DesiredSecret) (stored : Option Secret) : MarkerError :=
  .annotationsTooLarge (markedBytes t d stored) annotationLimit

/-- The wanted secret passes: the owner manages it already, put over the stored one, or its marked
annotations are within the limit. -/
def Fits (t : DeploymentTarget) (d : DesiredSecret) (stored : Option Secret) : Prop :=
  Ownership.isManagedBy t.owner (d.over t.ns stored).metadata = .ok true ∨
    markedBytes t d stored ≤ annotationLimit

/-- Every wanted annotation counts that is none of the tags. -/
theorem annotationSize_le_markedBytes {key value : String}
    (hreferences : key ≠ referencesAnnotation) (hmanager : key ≠ managerAnnotation)
    (h : d.spec.annotations.get? key = some value) :
    annotationSize key value ≤ markedBytes t d stored := by
  refine annotationSize_le ?_
  rw [Tags.get?_annotations_marked, if_neg hmanager, if_neg hreferences, h]
  rfl

/-- Without wanted annotations, marking exchanges two of the stored ones. -/
theorem markedBytes_eq (hspec : d.spec.annotations = .empty) :
    let annotations := (Tags.ofStored stored).annotations
    markedBytes t d stored + (annotations.weightAt annotationSize referencesAnnotation
        + annotations.weightAt annotationSize managerAnnotation)
      = annotationBytes annotations
        + (annotationSize referencesAnnotation
            (withReference t.owner.toString (Tags.ofStored stored).listing)
          + annotationSize managerAnnotation t.owner.toString) := by
  intro annotations
  have hwanting : ((Tags.ofStored stored).wanting d.spec).annotations = annotations := by
    show annotations.merge d.spec.annotations = annotations
    rw [hspec]
    exact SortedMap.merge_of_agrees fun k v hk => by cases hk
  have hlisting : ((Tags.ofStored stored).wanting d.spec).listing
      = (Tags.ofStored stored).listing :=
    congrArg (fun m => (SortedMap.get? m referencesAnnotation).getD "") hwanting
  unfold markedBytes Tags.marked
  rw [Tags.addManager_fst, hwanting, hlisting, annotationBytes_eq_sumOf, annotationBytes_eq_sumOf]
  generalize withReference t.owner.toString (Tags.ofStored stored).listing = references
  have hfirst := annotations.sumOf_insert annotationSize referencesAnnotation references
  have hsecond := (annotations.insert referencesAnnotation references).sumOf_insert annotationSize
    managerAnnotation t.owner.toString
  have hother : (annotations.insert referencesAnnotation references).weightAt annotationSize
      managerAnnotation = annotations.weightAt annotationSize managerAnnotation := by
    unfold SortedMap.weightAt
    rw [SortedMap.get?_insert, if_neg (by decide)]
  dsimp only
  omega

theorem addManager_over (t : DeploymentTarget) (d : DesiredSecret) (stored : Option Secret) :
    ((Tags.ofMetadata (d.over t.ns stored).metadata).addManager t.owner.toString).1
      = (Tags.ofStored stored).marked d.spec t.owner.toString := by
  rw [DesiredSecret.tags_over]
  rfl

/-- What fits is sent. -/
theorem prepared_of_fits (hfree : ReferencedSet.delimiter ∉ t.owner.toString.toList)
    (h : Fits t d stored) : ∃ secret, (⟨t, .ofTags⟩ : Handler).prepared d stored = .ok secret := by
  obtain ⟨marked, hm⟩ : ∃ marked,
      Ownership.markManaged t.owner (d.over t.ns stored).metadata = .ok marked := by
    rw [Ownership.markManaged_isOk_iff hfree, Ownership.addManager_unchanged_iff hfree,
      addManager_over]
    exact h
  have hm : Marker.ofTags.markManaged t.owner (d.over t.ns stored).metadata = .ok marked := hm
  exact ⟨{ d.over t.ns stored with metadata := marked.metadata }, by unfold prepared; rw [hm]; rfl⟩

/-- What does not fit is refused. -/
theorem prepared_of_not_fits (hfree : ReferencedSet.delimiter ∉ t.owner.toString.toList)
    (h : ¬Fits t d stored) :
    (⟨t, .ofTags⟩ : Handler).prepared d stored = .error (tooLarge t d stored) := by
  obtain ⟨hmanaged, hlarge⟩ := not_or.1 h
  have hlarge := Nat.not_le.1 hlarge
  unfold markedBytes at hlarge
  rw [← addManager_over] at hlarge
  have hm := Ownership.markManaged_of_large hfree hmanaged hlarge
  rw [addManager_over] at hm
  have hm : Marker.ofTags.markManaged t.owner (d.over t.ns stored).metadata
      = .error (tooLarge t d stored) := hm
  unfold prepared
  rw [hm]
  rfl

/-- Nothing else is refused. -/
theorem not_fits_of_refused (hfree : ReferencedSet.delimiter ∉ t.owner.toString.toList)
    {e : MarkerError} (hp : (⟨t, .ofTags⟩ : Handler).prepared d stored = .error e) :
    ¬Fits t d stored ∧ e = tooLarge t d stored := by
  have hfits : ¬Fits t d stored := by
    intro h
    obtain ⟨secret, hsecret⟩ := prepared_of_fits hfree h
    rw [hp] at hsecret
    cases hsecret
  rw [prepared_of_not_fits hfree hfits] at hp
  exact ⟨hfits, (Except.error.inj hp).symm⟩

/-- What is sent fits, and `markedBytes` is the size of its annotations. -/
theorem fits_of_prepared {secret : Secret}
    (hp : (⟨t, .ofTags⟩ : Handler).prepared d stored = .ok secret) :
    Fits t d stored ∧
      annotationBytes secret.metadata.annotationMap = markedBytes t d stored := by
  constructor
  · by_contra h
    rw [prepared_of_not_fits (free_of_prepared hp) h] at hp
    cases hp
  · obtain ⟨-, hannotations⟩ := tags_of_prepared hp
    unfold ObjectMeta.annotationMap markedBytes
    rw [hannotations]
    rfl

theorem prepared_iff_fits (hfree : ReferencedSet.delimiter ∉ t.owner.toString.toList) :
    (∃ secret, (⟨t, .ofTags⟩ : Handler).prepared d stored = .ok secret) ↔ Fits t d stored :=
  ⟨fun ⟨_, hp⟩ => (fits_of_prepared hp).1, prepared_of_fits hfree⟩

/-! ### The calls of a write -/

/-- A secret that was read, and over which the wanted one does not fit, ends the calls. -/
def EndsAt (t : DeploymentTarget) (d : DesiredSecret) (calls : List StoreExchange)
    (r : Except SyncFault Secret) : Prop :=
  ∀ before stored after, calls = before ++ ⟨.get t.ns d.name, .ok stored⟩ :: after →
    ¬Fits t d (some stored) → after = [] ∧ r = .error (.marking (tooLarge t d (some stored)))

variable {calls calls' : List StoreExchange} {r : Except SyncFault Secret}

/-- Nothing follows it, so it cannot be among the calls of an attempt that went over to another. -/
theorem EndsAt.append {e : StoreError} (h : EndsAt t d calls (.error (.secretUpdate e)))
    (h' : EndsAt t d calls' r) : EndsAt t d (calls ++ calls') r := by
  intro before stored after hsplit hlarge
  rcases split_append hsplit with ⟨rest, hcalls, -⟩ | ⟨rest, -, hrest⟩
  · obtain ⟨-, hr⟩ := h before stored rest hcalls hlarge
    cases hr
  · exact h' rest stored after hrest hlarge

theorem CreateCalls.endsAt (hc : CreateCalls ⟨t, .ofTags⟩ d calls r) : EndsAt t d calls r := by
  intro before stored after hsplit
  have hmem : (⟨.get t.ns d.name, .ok stored⟩ : StoreExchange) ∈ calls := by
    rw [hsplit]
    exact List.mem_append_right _ List.mem_cons_self
  -- A creation reads nothing.
  cases hc with
  | refused e hp => cases hmem
  | sent secret hp reply => cases List.mem_singleton.1 hmem

theorem UpdateCalls.endsAt (hfree : ReferencedSet.delimiter ∉ t.owner.toString.toList)
    (hu : UpdateCalls ⟨t, .ofTags⟩ d calls r) : EndsAt t d calls r := by
  intro before stored after hsplit hlarge
  cases before with
  | nil =>
    -- The secret was read by the first call of the update.
    cases hu with
    | unread e => cases (List.cons.inj hsplit).1
    | refused read e hp =>
      obtain ⟨hhead, hrest⟩ := List.cons.inj hsplit
      cases hhead
      rw [(not_fits_of_refused hfree hp).2]
      exact ⟨hrest.symm, rfl⟩
    | sent read secret hp reply =>
      cases (List.cons.inj hsplit).1
      exact absurd (fits_of_prepared hp).1 hlarge
  | cons y before =>
    -- The second call of an update, if it makes one, is no read.
    have hmem : (⟨.get t.ns d.name, .ok stored⟩ : StoreExchange) ∈ calls.tail := by
      rw [hsplit]
      exact List.mem_append_right before List.mem_cons_self
    cases hu with
    | unread e => cases hmem
    | refused read e hp => cases hmem
    | sent read secret hp reply => cases List.mem_singleton.1 hmem

theorem WriteCalls.endsAt (hfree : ReferencedSet.delimiter ∉ t.owner.toString.toList)
    (hw : WriteCalls ⟨t, .ofTags⟩ d calls r) : EndsAt t d calls r := by
  cases hw with
  | unnamed _ _ _ hc => exact hc.endsAt
  | updated _ _ _ hu _ => exact hu.endsAt hfree
  | recreated _ _ _ _ _ hu hc _ => exact (hu.endsAt hfree).append hc.endsAt
  | reupdated _ _ _ _ _ _ _ hu hc hl =>
    exact (hu.endsAt hfree).append (hc.endsAt.append (hl.endsAt hfree))

/-- A creation of what does not fit makes no call. -/
theorem CreateCalls.of_not_fits (hfree : ReferencedSet.delimiter ∉ t.owner.toString.toList)
    (hc : CreateCalls ⟨t, .ofTags⟩ d calls r) (hlarge : ¬Fits t d none) :
    calls = [] ∧ r = .error (.marking (tooLarge t d none)) := by
  cases hc with
  | refused e hp => exact ⟨rfl, by rw [(not_fits_of_refused hfree hp).2]⟩
  | sent secret hp reply => exact absurd (fits_of_prepared hp).1 hlarge

/-- An update ends with the failure of its last call. -/
theorem UpdateCalls.of_failure {e : StoreError} (hu : UpdateCalls ⟨t, .ofTags⟩ d calls r)
    (hlast : calls.getLast?.bind failure? = some e) : r = .error (.secretUpdate e) := by
  cases hu with
  | unread e' =>
    obtain rfl : e' = e := Option.some.inj hlast
    rfl
  | refused stored e' hp => cases hlast
  | sent stored secret hp reply =>
    cases reply with
    | error e' =>
      obtain rfl : e' = e := Option.some.inj hlast
      rfl
    | ok secret' => cases hlast

/-- A write that comes to creating what does not fit is refused: it comes to it without a name, or
when the last call has lost the secret. -/
theorem WriteCalls.of_not_fits (hfree : ReferencedSet.delimiter ∉ t.owner.toString.toList)
    (hw : WriteCalls ⟨t, .ofTags⟩ d calls r) (hlarge : ¬Fits t d none)
    (hcreates : d.name = "" ∨ ∃ detail, calls.getLast?.bind failure? = some (.notFound detail)) :
    r = .error (.marking (tooLarge t d none)) := by
  cases hw with
  | unnamed _ _ _ hc => exact (hc.of_not_fits hfree hlarge).2
  | updated _ _ hn hu hr =>
    obtain ⟨detail, hlast⟩ := hcreates.resolve_left hn
    exact absurd (hu.of_failure hlast) (hr detail)
  | recreated _ _ _ _ _ _ hc _ => exact (hc.of_not_fits hfree hlarge).2
  | reupdated _ _ _ _ _ _ _ _ hc _ =>
    -- A creation that finds the secret there was sent.
    cases (hc.of_not_fits hfree hlarge).2

/-- An update that marking refuses has read what the wanted secret does not fit over. -/
theorem UpdateCalls.of_refused (hfree : ReferencedSet.delimiter ∉ t.owner.toString.toList)
    (hu : UpdateCalls ⟨t, .ofTags⟩ d calls r) {e : MarkerError} (hr : r = .error (.marking e)) :
    ∃ stored, calls.getLast? = some ⟨.get t.ns d.name, .ok stored⟩ ∧
      ¬Fits t d (some stored) ∧ e = tooLarge t d (some stored) := by
  cases hu with
  | unread e' => cases hr
  | refused stored e' hp =>
    cases hr
    exact ⟨stored, rfl, not_fits_of_refused hfree hp⟩
  | sent stored secret hp reply => cases reply <;> cases hr

theorem CreateCalls.of_refused (hfree : ReferencedSet.delimiter ∉ t.owner.toString.toList)
    (hc : CreateCalls ⟨t, .ofTags⟩ d calls r) {e : MarkerError} (hr : r = .error (.marking e)) :
    ¬Fits t d none ∧ e = tooLarge t d none := by
  cases hc with
  | refused e' hp =>
    cases hr
    exact not_fits_of_refused hfree hp
  | sent secret hp reply => cases reply <;> cases hr

/-- A write that marking refuses was to create what does not fit, or has read last what the wanted
secret does not fit over. -/
theorem WriteCalls.of_refused (hfree : ReferencedSet.delimiter ∉ t.owner.toString.toList)
    (hw : WriteCalls ⟨t, .ofTags⟩ d calls r) {e : MarkerError} (hr : r = .error (.marking e)) :
    ∃ stored, ¬Fits t d stored ∧ e = tooLarge t d stored ∧
      ∀ read ∈ stored, calls.getLast? = some ⟨.get t.ns d.name, .ok read⟩ := by
  cases hw with
  | unnamed _ _ _ hc =>
    obtain ⟨hlarge, he⟩ := hc.of_refused hfree hr
    exact ⟨none, hlarge, he, fun read hread => absurd hread (Option.not_mem_none read)⟩
  | updated _ _ _ hu _ =>
    obtain ⟨stored, hlast, hlarge, he⟩ := hu.of_refused hfree hr
    exact ⟨some stored, hlarge, he, fun read hread => Option.some.inj hread ▸ hlast⟩
  | recreated _ _ _ _ _ _ hc _ =>
    obtain ⟨hlarge, he⟩ := hc.of_refused hfree hr
    exact ⟨none, hlarge, he, fun read hread => absurd hread (Option.not_mem_none read)⟩
  | reupdated _ _ _ _ _ _ _ _ _ hl =>
    obtain ⟨stored, hlast, hlarge, he⟩ := hl.of_refused hfree hr
    refine ⟨some stored, hlarge, he, fun read hread => ?_⟩
    obtain rfl := Option.some.inj hread
    rw [List.getLast?_append, List.getLast?_append, hlast]
    rfl

/-! ### Every store -/

/-- How the calls of a write and what it ends with keep to the limit. -/
structure KeepsLimit (t : DeploymentTarget) (d : DesiredSecret) (calls : List StoreExchange)
    (r : Except SyncFault Secret) : Prop where
  /-- What is created fits, and `markedBytes` is the size of its annotations. -/
  created : ∀ before ns secret reply after, calls = before ++ ⟨.create ns secret, reply⟩ :: after →
    Fits t d none ∧ annotationBytes secret.metadata.annotationMap = markedBytes t d none
  /-- What replaces a secret fits over what was read right before, and has that size. -/
  replaced : ∀ before ns secret reply after, calls = before ++ ⟨.update ns secret, reply⟩ :: after →
    ∃ earlier stored, before = earlier ++ [⟨.get t.ns d.name, .ok stored⟩] ∧
      Fits t d (some stored) ∧
      annotationBytes secret.metadata.annotationMap = markedBytes t d (some stored)
  /-- What does not fit over what was read is refused at once. -/
  endsAt : EndsAt t d calls r
  /-- What does not fit is refused when it is to be created. -/
  uncreated : ¬Fits t d none →
    d.name = "" ∨ (∃ detail, calls.getLast?.bind failure? = some (.notFound detail)) →
    r = .error (.marking (tooLarge t d none))
  /-- Nothing else is refused. -/
  refused : ∀ e, r = .error (.marking e) → ∃ stored, ¬Fits t d stored ∧ e = tooLarge t d stored ∧
    ∀ read ∈ stored, calls.getLast? = some ⟨.get t.ns d.name, .ok read⟩

theorem WriteCalls.keepsLimit (hfree : ReferencedSet.delimiter ∉ t.owner.toString.toList)
    (hw : WriteCalls ⟨t, .ofTags⟩ d calls r) : KeepsLimit t d calls r where
  created before ns secret reply after hsplit :=
    fits_of_prepared (hw.rooted before _ after hsplit).2
  replaced before ns secret reply after hsplit := by
    obtain ⟨-, earlier, stored, hp, hbefore⟩ := hw.rooted before _ after hsplit
    exact ⟨earlier, stored, hbefore, fits_of_prepared hp⟩
  endsAt := hw.endsAt hfree
  uncreated := hw.of_not_fits hfree
  refused e := hw.of_refused hfree

theorem SyncCalls.keepsLimit (hfree : ReferencedSet.delimiter ∉ t.owner.toString.toList)
    {recreate : Bool} {data : SecretData} {result : Except SyncError Secret}
    (hs : SyncCalls ⟨t, .ofTags⟩ recreate (.ok data) calls result) :
    ∃ r, result = r.mapError (failure ⟨t, .ofTags⟩) ∧
      KeepsLimit t (desired ⟨t, .ofTags⟩ recreate data) calls r := by
  cases hs with
  | written data calls r hw => exact ⟨r, rfl, hw.keepsLimit hfree⟩

/-- What a sync sends and the limit, whatever the store answers. Take an owner whose key can be
stored. Without data the sync sends nothing. With data, it creates the wanted secret only if that
fits, and replaces a secret only if the wanted one fits over it; the annotations of what is sent
have `markedBytes`. What does not fit is refused with that size, and no request follows: over what
was read, and when it is to be created. Marking refuses nothing else. -/
theorem sync_limit {σ : Type} (server : Server storeInterface σ) (t : DeploymentTarget)
    (hfree : ReferencedSet.delimiter ∉ t.owner.toString.toList)
    (provider : StoreProgram (Except ProviderError SecretData)) (recreate : Bool) (s : σ) :
    let h : Handler := ⟨t, .ofTags⟩
    let fetched := provider.run server s
    let own := (h.write recreate fetched.result).exchanges server fetched.state
    (h.sync provider recreate).exchanges server s = provider.exchanges server s ++ own ∧
    (∀ e, fetched.result = .error e → own = []) ∧
    ∀ data, fetched.result = .ok data →
      ∃ r, ((h.sync provider recreate).run server s).result = r.mapError h.failure ∧
        KeepsLimit t (h.desired recreate data) own r := by
  intro h fetched own
  have hcalls : SyncCalls h recreate fetched.result own _ :=
    write_calls server h recreate fetched.result fetched.state
  refine ⟨exchanges_sync server provider recreate s h, ?_, ?_⟩
  · intro e he
    rw [he] at hcalls
    exact hcalls.eq_nil
  · intro data hdata
    have hresult : ((h.sync provider recreate).run server s).result
        = ((h.write recreate fetched.result).run server fetched.state).result := by
      rw [run_sync]
    rw [hresult]
    rw [hdata] at hcalls ⊢
    exact hcalls.keepsLimit hfree

/-! #### A note as large as the limit -/

/-- A target that wants a note for which its key leaves no room. -/
def verboseTarget : DeploymentTarget :=
  .inNamespace { name := "db", annotations := .singleton "note" (filler 262144) } "app"
    ⟨"team-a", "creds"⟩ ""

theorem free_verboseTarget :
    ReferencedSet.delimiter ∉ verboseTarget.owner.toString.toList := by
  show ReferencedSet.delimiter ∉ (OwnerKey.mk "team-a" "creds").toString.toList
  decide

theorem get?_verboseTarget (k : String) :
    verboseTarget.spec.annotations.get? k = if k = "note" then some (filler 262144) else none := by
  show ((SortedMap.empty : SortedMap String).insert "note" (filler 262144)).get? k = _
  rw [SortedMap.get?_insert, SortedMap.get?_empty]

/-- Whatever is stored, the annotations would be too large. -/
theorem lt_markedBytes_verboseTarget (data : SecretData) (stored : Option Secret) :
    annotationLimit
      < markedBytes verboseTarget (desired ⟨verboseTarget, .ofTags⟩ false data) stored := by
  have hnote : annotationSize "note" (filler 262144)
      ≤ markedBytes verboseTarget (desired ⟨verboseTarget, .ofTags⟩ false data) stored :=
    annotationSize_le_markedBytes (by decide) (by decide)
      ((get?_verboseTarget "note").trans (if_pos rfl))
  have hkey : "note".utf8ByteSize = 4 := by decide
  rw [annotationSize, hkey, utf8ByteSize_filler] at hnote
  exact Nat.lt_of_lt_of_le (by decide) hnote

/-- A write to a name reads first. -/
theorem exists_exchanges_write_eq {σ : Type} (server : Server storeInterface σ) (h : Handler)
    (recreate : Bool) (hn : h.target.effectiveName recreate ≠ "") (data : SecretData) (s : σ) :
    ∃ after, (h.write recreate (.ok data)).exchanges server s
      = ⟨.get h.target.ns (h.target.effectiveName recreate),
          (server (.get h.target.ns (h.target.effectiveName recreate)) s).1⟩ :: after := by
  have hname : ¬(h.desired recreate data).name.isEmpty = true :=
    fun he => hn (String.isEmpty_iff.1 he)
  rw [exchanges_write, materialize_eq, if_neg hname, Program.exchanges_bind, update_eq]
  exact ⟨_, rfl⟩

/-- The note does not fit over a secret that nobody has marked. -/
theorem not_fits_rival {stored : Secret} (hlabels : stored.metadata.labels = none)
    (data : SecretData) :
    ¬Fits verboseTarget (desired ⟨verboseTarget, .ofTags⟩ false data) (some stored) := by
  rintro (hmanaged | hsmall)
  · have hlinked := ((Ownership.isReferencedBy_iff _ _).1
      ((Ownership.isManagedBy_iff _ _).1 hmanaged).1).2.1
    rw [DesiredSecret.get?_labels_over] at hlinked
    have hnone : stored.metadata.labelMap.get? linkedLabel = none := by
      unfold ObjectMeta.labelMap
      rw [hlabels]
      rfl
    rw [Option.bind_some, hnone] at hlinked
    cases hlinked
  · exact Nat.not_le.2 (lt_markedBytes_verboseTarget data (some stored)) hsmall

/-- The note is refused for a secret that nobody has marked, and the read is all that is sent. -/
theorem sync_limit_unmarked :
    let h : Handler := ⟨verboseTarget, .ofTags⟩
    let c : Cluster StoreError := Cluster.empty.put rival
    ReferencedSet.delimiter ∉ verboseTarget.owner.toString.toList ∧
    ∃ stored size, annotationLimit < size ∧
      (h.sync (.done (.ok .empty)) false).exchanges storeServer c
        = [⟨.get "app" "db", .ok stored⟩] ∧
      ((h.sync (.done (.ok .empty)) false).run storeServer c).result
        = .error (h.failure (.marking (.annotationsTooLarge size annotationLimit))) := by
  intro h c
  obtain ⟨hcalls, -, hall⟩ := sync_limit storeServer verboseTarget free_verboseTarget
    (.done (.ok .empty)) false c
  obtain ⟨r, hresult, hkeeps⟩ := hall .empty rfl
  obtain ⟨stored, hstored, hlabels⟩ : ∃ stored, c.secret? "app" "db" = some stored ∧
      stored.metadata.labels = none :=
    ⟨_, rfl, rfl⟩
  obtain ⟨c', hget, -⟩ := Cluster.get_of_stored (c := c) rfl hstored
  obtain ⟨after, hwrite⟩ : ∃ after, (h.write false (.ok .empty)).exchanges storeServer c
      = ⟨.get "app" "db", (storeServer (.get "app" "db") c).1⟩ :: after :=
    exists_exchanges_write_eq storeServer h false (by decide) .empty c
  rw [hget] at hwrite
  have hwrite : (h.write false (.ok .empty)).exchanges storeServer c
      = [] ++ ⟨.get "app" "db", .ok stored⟩ :: after := hwrite
  obtain ⟨rfl, rfl⟩ := hkeeps.endsAt [] stored after hwrite (not_fits_rival hlabels .empty)
  exact ⟨free_verboseTarget, stored, _, lt_markedBytes_verboseTarget .empty (some stored),
    hcalls.trans hwrite, hresult⟩

/-! #### A secret that was marked before -/

/-- A secret that the owner of the target manages. -/
def ownSecret : Secret where
  metadata := {
    name := some "db"
    ns := some "app"
    labels := some (.singleton linkedLabel linkedValue)
    annotations := some ((SortedMap.singleton referencesAnnotation "team-a/creds").insert
      managerAnnotation "team-a/creds") }

/-- What the cluster says to annotations that are too large. -/
def rejection : StoreError := .other "metadata.annotations: Too long"

/-- A cluster with that secret that takes no replacement for it. -/
def strictCluster : Cluster StoreError where
  shelves := ((Cluster.empty : Cluster StoreError).put ownSecret).shelves
  hooks := [{ verb := .update, failure := some rejection }]

/-- The note fits over the secret that the owner manages, however large it is. -/
theorem fits_ownSecret {stored : Secret}
    (hlabels : stored.metadata.labels = ownSecret.metadata.labels)
    (hannotations : stored.metadata.annotations = ownSecret.metadata.annotations)
    (data : SecretData) :
    Fits verboseTarget (desired ⟨verboseTarget, .ofTags⟩ false data) (some stored) := by
  left
  rw [Ownership.isManagedBy_iff, Ownership.isReferencedBy_iff, listing_over]
  -- The spec wants none of the tags, so the stored ones are left.
  have hunwanted : ∀ k, k ≠ "note" → verboseTarget.spec.annotations.get? k = none := by
    intro k hk
    rw [get?_verboseTarget, if_neg hk]
  have hlinked : stored.metadata.labelMap.get? linkedLabel = some linkedValue := by
    unfold ObjectMeta.labelMap
    rw [hlabels]
    decide +kernel
  have hreferences : stored.metadata.annotationMap.get? referencesAnnotation
      = some "team-a/creds" := by
    unfold ObjectMeta.annotationMap
    rw [hannotations]
    decide +kernel
  have hmanager : stored.metadata.annotationMap.get? managerAnnotation = some "team-a/creds" := by
    unfold ObjectMeta.annotationMap
    rw [hannotations]
    decide +kernel
  have hlisting : verboseTarget.spec.wantedReferences (some stored) = "team-a/creds" := by
    unfold SecretSpec.wantedReferences
    rw [hunwanted _ (by decide), Option.none_or, Option.bind_some, hreferences, Option.getD_some]
  refine ⟨⟨free_verboseTarget, ?_, ?_⟩, ?_⟩
  · rw [DesiredSecret.get?_labels_over, Option.bind_some, hlinked]
    rfl
  · show "team-a/creds" ∈ ReferencedSet.listed (verboseTarget.spec.wantedReferences (some stored))
    rw [hlisting]
    decide +kernel
  · show (DesiredSecret.over _ _ _).metadata.annotationMap.get? managerAnnotation = _
    rw [DesiredSecret.get?_annotations_over, Option.bind_some, hmanager]
    show (verboseTarget.spec.annotations.get? managerAnnotation).or (some "team-a/creds") = _
    rw [hunwanted _ (by decide)]
    rfl

/-- The sync of a secret that its owner manages already sends annotations that are too large, and
ends with what the cluster says to them. -/
theorem sync_sends_oversized :
    let h : Handler := ⟨verboseTarget, .ofTags⟩
    ReferencedSet.delimiter ∉ verboseTarget.owner.toString.toList ∧
    ∃ stored sent,
      (h.sync (.done (.ok .empty)) false).exchanges storeServer strictCluster
        = [⟨.get "app" "db", .ok stored⟩, ⟨.update "app" sent, .error rejection⟩] ∧
      Ownership.WithinLimit stored.metadata ∧ ¬Ownership.WithinLimit sent.metadata ∧
      ((h.sync (.done (.ok .empty)) false).run storeServer strictCluster).result
        = .error (h.failure (.secretUpdate rejection)) := by
  intro h
  let d : DesiredSecret := h.desired false .empty
  obtain ⟨stored, hstored, hlabels, hannotations⟩ : ∃ stored,
      strictCluster.secret? "app" "db" = some stored ∧
      stored.metadata.labels = ownSecret.metadata.labels ∧
      stored.metadata.annotations = ownSecret.metadata.annotations :=
    ⟨_, rfl, rfl, rfl⟩
  obtain ⟨sent, hp⟩ :=
    prepared_of_fits free_verboseTarget (fits_ownSecret hlabels hannotations .empty)
  let read : Cluster StoreError :=
    { strictCluster with history := [Cluster.callOf (.get "app" "db")] }
  have hget : storeServer (.get h.target.ns d.name) strictCluster = (.ok stored, read) := by
    have hread : storeServer (.get h.target.ns d.name) strictCluster
        = read.perform (.get "app" "db") := rfl
    have hkept : read.secret? "app" "db" = some stored := hstored
    rw [hread, Cluster.perform_get, hkept]
  obtain ⟨rejected, hupdate⟩ : ∃ rejected,
      storeServer (.update h.target.ns sent) read = (.error rejection, rejected) := ⟨_, rfl⟩
  have hattempt := attempt_update_of_replies hget hp hupdate
  have hend : ((h.update d).run storeServer strictCluster).result
      = .error (.secretUpdate rejection) := congrArg Attempt.result hattempt
  -- The secret was not lost, so there is no other attempt.
  obtain ⟨hcalls, hresult⟩ :=
    sync_of_kept storeServer false strictCluster h .empty (by decide) (by rw [hend]; rfl)
  refine ⟨free_verboseTarget, stored, sent, hcalls.trans (congrArg Attempt.calls hattempt), ?_, ?_,
    hresult.trans (congrArg (Except.mapError h.failure) hend)⟩
  · unfold Ownership.WithinLimit ObjectMeta.annotationMap
    rw [hannotations]
    decide +kernel
  · intro hsmall
    unfold Ownership.WithinLimit at hsmall
    rw [(fits_of_prepared hp).2] at hsmall
    exact Nat.not_le.2 (lt_markedBytes_verboseTarget .empty (some stored)) hsmall

end Handler

end SecretSync
