import SecretSync.Proofs.Ownership.Record

/-!
# `SecretSync.Proofs.Ownership.Recording`: runs of a marker

The four calls that a marker may write with are made one after the other on
the metadata of one object, for any owners. `MarkerCall.onTags_onto` says that
one call does to the tags of a record what it does to the record, and
`tracks_step` that a run keeps this, also through calls that are refused.

`recordedIn_follow` is the statement about runs: metadata that carried no
ownership tag is, after any calls, what it was with the record in its tags, and
each further call is answered as the record says.
-/

set_option autoImplicit false

namespace SecretSync

/-! ### Runs of marker calls -/

/-- A call of a marker that may write. -/
inductive MarkerCall where
  | markReferenced (owner : OwnerKey)
  | markManaged (owner : OwnerKey)
  | unmarkManaged (owner : OwnerKey)
  | unmarkReferenced (owner : OwnerKey)
  deriving DecidableEq, Repr

namespace MarkerCall

/-- The owner for whom the call is made. -/
def owner : MarkerCall → OwnerKey
  | markReferenced owner | markManaged owner | unmarkManaged owner | unmarkReferenced owner =>
    owner

/-- The call, made on metadata with the marker that keeps its record in the tags. -/
def on : MarkerCall → ObjectMeta → Except MarkerError Marked
  | markReferenced owner => Marker.ofTags.markReferenced owner
  | markManaged owner => Marker.ofTags.markManaged owner
  | unmarkManaged owner => Marker.ofTags.unmarkManaged owner
  | unmarkReferenced owner => Marker.ofTags.unmarkReferenced owner

/-- What the call does to the tags with the stored form of its owner. -/
def onTags : MarkerCall → String → Tags → Tags × Bool
  | markReferenced _, key => (·.addReference key)
  | markManaged _, key => (·.addManager key)
  | unmarkManaged _, key => (·.removeManager key)
  | unmarkReferenced _, key => (·.removeReference key)

/-- The call as an edit of the metadata in place. -/
def edit (c : MarkerCall) : Edit := Ownership.updateFor c.owner c.onTags

/-- The metadata as the call leaves it, whether it is refused or not. -/
def after (c : MarkerCall) (m : ObjectMeta) : ObjectMeta := (c.edit.on m).2

/-- What the call does to the record, if it is not refused. -/
def onRecord : MarkerCall → OwnerRecord → OwnerRecord
  | markReferenced owner => (·.reference owner.toString)
  | markManaged owner => (·.manage owner.toString)
  | unmarkManaged owner => (·.release owner.toString)
  | unmarkReferenced owner => (·.unreference owner.toString)

/-- The call on metadata, with the record beside it. A refused call leaves the record as it is. -/
def step (s : ObjectMeta × OwnerRecord) (c : MarkerCall) : ObjectMeta × OwnerRecord :=
  (c.after s.1, match c.on s.1 with
    | .ok _ => c.onRecord s.2
    | .error _ => s.2)

/-- Calls one after the other on metadata that has no owners yet. -/
def follow (m : ObjectMeta) (calls : List MarkerCall) : ObjectMeta × OwnerRecord :=
  calls.foldl step (m, .unowned)

/-- The key of the owner can be stored, and comes back as it is. -/
structure Storable (c : MarkerCall) : Prop where
  free : ReferencedSet.delimiter ∉ c.owner.toString.toList
  trimmed : Text.trim c.owner.toString = c.owner.toString

variable {c : MarkerCall} {o : OwnerRecord}

theorem Storable.writable (hc : c.Storable) : ReferencedSet.Writable c.owner.toString where
  free := hc.free
  trimmed := hc.trimmed
  nonempty := by
    intro h
    exact OwnerKey.trim_toString_ne_empty c.owner (hc.trimmed.trans h)

/-- The answer to a call is that of its edit. -/
theorem on_eq_mark (c : MarkerCall) (m : ObjectMeta) : c.on m = c.edit.mark m := by
  cases c <;> rfl

/-- A call that is accepted leaves what it answers. -/
theorem after_of_ok {c : MarkerCall} {m : ObjectMeta} {marked : Marked} (h : c.on m = .ok marked) :
    c.after m = marked.metadata :=
  congrArg Prod.snd (Edit.on_of_mark ((c.on_eq_mark m).symm.trans h))

/-- A call that is refused leaves what was there. -/
theorem after_of_refused {c : MarkerCall} {m : ObjectMeta} {e : MarkerError}
    (h : c.on m = .error e) : c.after m = m :=
  Ownership.updateFor_of_refused
    (Edit.on_of_mark_refused ((c.on_eq_mark m).symm.trans h))

theorem after_eq (c : MarkerCall) (m : ObjectMeta) :
    c.after m = m ∨ ∃ marked, c.on m = .ok marked ∧ c.after m = marked.metadata := by
  cases hon : c.on m with
  | error e => exact .inl (after_of_refused hon)
  | ok marked => exact .inr ⟨marked, rfl, after_of_ok hon⟩

/-- A call is a change of the tags by the stored form of its owner. -/
theorem on_eq_bind (c : MarkerCall) (m : ObjectMeta) :
    c.on m = Ownership.storedKey c.owner >>= fun key => Ownership.change (c.onTags key) m :=
  (c.on_eq_mark m).trans (Ownership.mark_updateFor c.onTags c.owner m)

theorem on_of_free (hfree : ReferencedSet.delimiter ∉ c.owner.toString.toList) (m : ObjectMeta) :
    c.on m = Ownership.change (c.onTags c.owner.toString) m := by
  rw [on_eq_bind, Ownership.storedKey_of_free hfree]
  rfl

theorem on_eq_change (hc : c.Storable) (m : ObjectMeta) :
    c.on m = Ownership.change (c.onTags c.owner.toString) m :=
  on_of_free hc.free m

theorem proper_onRecord (hc : c.Storable) (ho : o.Proper) : (c.onRecord o).Proper := by
  cases c with
  | markReferenced owner => exact ho.reference hc.writable
  | markManaged owner => exact ho.manage hc.writable
  | unmarkManaged owner => exact ho.release owner.toString
  | unmarkReferenced owner => exact ho.unreference owner.toString

/-- On the tags of a record, a call gives the tags of the next record, and it reports a change
exactly if the record changes. -/
theorem onTags_onto (c : MarkerCall) (ho : o.Proper) (base : Tags) :
    c.onTags c.owner.toString (o.onto base)
      = ((c.onRecord o).onto base, decide (c.onRecord o ≠ o)) := by
  cases c with
  | markReferenced owner =>
    have hcall := OwnerRecord.addReference_onto ho base owner.toString
    refine hcall.trans (Prod.ext rfl (decide_eq_decide.2 ?_))
    show _ ↔ o.reference owner.toString ≠ o
    rw [Ne, OwnerRecord.reference_eq_iff]
  | markManaged owner =>
    have hreferenced := OwnerRecord.addReference_onto ho base owner.toString
    have hmanaged :=
      OwnerRecord.setManager_onto (o.reference owner.toString) base owner.toString
    show (o.onto base).addManager owner.toString = _
    unfold Tags.addManager
    rw [hreferenced]
    dsimp only
    rw [hmanaged, OwnerRecord.manager_reference, ← Bool.decide_or]
    refine Prod.ext rfl (decide_eq_decide.2 ?_)
    show _ ↔ o.manage owner.toString ≠ o
    rw [Ne, Ne, OwnerRecord.manage_eq_iff, Decidable.not_and_iff_not_or_not]
  | unmarkManaged owner =>
    have hcall := OwnerRecord.removeManager_onto o base owner.toString
    refine hcall.trans (Prod.ext rfl (decide_eq_decide.2 ?_))
    show _ ↔ o.release owner.toString ≠ o
    rw [Ne, OwnerRecord.release_eq_iff, Ne, Decidable.not_not]
  | unmarkReferenced owner =>
    have hreleased := OwnerRecord.removeManager_onto o base owner.toString
    have hdropped := OwnerRecord.dropReference_onto (ho.release owner.toString) base owner.toString
    show (o.onto base).removeReference owner.toString = _
    unfold Tags.removeReference
    rw [hreleased]
    dsimp only
    rw [hdropped, OwnerRecord.references_release, ← Bool.decide_or]
    refine Prod.ext rfl (decide_eq_decide.2 ?_)
    show _ ↔ o.unreference owner.toString ≠ o
    rw [Ne, OwnerRecord.unreference_eq_iff, Decidable.not_and_iff_not_or_not, Ne,
      Decidable.not_not, Decidable.not_not]

/-! ### What holds along a run -/

/-- The metadata has no ownership tags. -/
structure Untagged (m : ObjectMeta) : Prop where
  label : m.labelMap.get? linkedLabel = none
  references : m.annotationMap.get? referencesAnnotation = none
  manager : m.annotationMap.get? managerAnnotation = none

/-- The invariant of a run: the metadata is the first one with the tags of the record. -/
structure Tracks (m : ObjectMeta) (s : ObjectMeta × OwnerRecord) : Prop where
  proper : s.2.Proper
  object : Ownership.sameObject m s.1
  tags : Tags.ofMetadata s.1 = s.2.onto (Tags.ofMetadata m)

variable {m : ObjectMeta} {s : ObjectMeta × OwnerRecord}

theorem tracks_start (hm : Untagged m) : Tracks m (m, .unowned) where
  proper := OwnerRecord.proper_unowned
  object := rfl
  tags := (OwnerRecord.unowned_onto hm.label hm.references hm.manager).symm

/-- What is answered to a call: a record that stays is reported as unchanged, and a new one is
written over the first metadata, unless its annotations are too large. -/
def answer (c : MarkerCall) (m : ObjectMeta) (s : ObjectMeta × OwnerRecord) :
    Except MarkerError Marked :=
  let next := c.onRecord s.2
  let written := next.onto (Tags.ofMetadata m)
  let size := annotationBytes written.annotations
  if next = s.2 then .ok ⟨false, s.1⟩
  else if size > annotationLimit then .error (.annotationsTooLarge size annotationLimit)
  else .ok ⟨true, written.writeTo m⟩

theorem on_of_tracks (hs : Tracks m s) (hc : c.Storable) : c.on s.1 = c.answer m s := by
  have hobject : ∀ t : Tags, t.writeTo s.1 = t.writeTo m := by
    intro t
    unfold Tags.writeTo
    rw [hs.object]
  rw [on_eq_change hc]
  unfold Ownership.change answer
  rw [hs.tags, onTags_onto c hs.proper]
  by_cases h : c.onRecord s.2 = s.2
  · simp [h]
  · simp only [h, hobject, ne_eq, not_false_eq_true, decide_true, Bool.not_true,
      Bool.false_eq_true, if_false]

/-- Every call keeps the invariant, also one that is refused. -/
theorem tracks_step (hs : Tracks m s) (hc : c.Storable) : Tracks m (step s c) := by
  have hon := on_of_tracks hs hc
  unfold step
  unfold answer at hon
  by_cases hsame : c.onRecord s.2 = s.2
  · rw [if_pos hsame] at hon
    rw [after_of_ok hon, hon]
    dsimp only
    rw [hsame]
    exact hs
  · rw [if_neg hsame] at hon
    split at hon
    · rw [after_of_refused hon, hon]
      exact hs
    · rw [after_of_ok hon, hon]
      exact ⟨proper_onRecord hc hs.proper, rfl, rfl⟩

theorem tracks_follow (hm : Untagged m) {calls : List MarkerCall}
    (hcalls : ∀ c ∈ calls, c.Storable) : Tracks m (follow m calls) := by
  have hrun : ∀ (calls : List MarkerCall) (s : ObjectMeta × OwnerRecord), Tracks m s →
      (∀ c ∈ calls, c.Storable) → Tracks m (calls.foldl step s) := by
    intro calls
    induction calls with
    | nil =>
      intro s hs _
      exact hs
    | cons c rest ih =>
      intro s hs hcalls
      have hfirst := tracks_step hs (hcalls c List.mem_cons_self)
      exact ih (step s c) hfirst fun c' hc' => hcalls c' (List.mem_cons_of_mem _ hc')
  exact hrun calls (m, .unowned) (tracks_start hm) hcalls

end MarkerCall

/-- The metadata `m'` is `m` with the record in its tags, and reads as the record says. -/
structure OwnerRecord.RecordedIn (o : OwnerRecord) (m m' : ObjectMeta) : Prop where
  /-- The label is there while anyone references the object. -/
  label : m'.labelMap.get? linkedLabel = if o.references = [] then none else some "true"
  /-- So is the references annotation, and it holds the owners with commas between them. -/
  references : m'.annotationMap.get? referencesAnnotation
    = if o.references = [] then none else some (String.intercalate "," o.references)
  noTrailing : ∀ value ∈ m'.annotationMap.get? referencesAnnotation,
    value.toList.getLast? ≠ some ','
  entries : Ownership.referenceEntries m' = o.references
  manager : m'.annotationMap.get? managerAnnotation = o.manager
  manager_mem : ∀ key ∈ o.manager, key ∈ o.references
  isReferencedBy : ∀ j : OwnerKey,
    Ownership.isReferencedBy j m' = .ok true ↔ j.toString ∈ o.references
  isManagedBy : ∀ j : OwnerKey,
    Ownership.isManagedBy j m' = .ok true ↔ o.manager = some j.toString
  /-- Nothing else differs. -/
  object : Ownership.sameObject m m'
  labels : ∀ k, k ≠ linkedLabel → m'.labelMap.get? k = m.labelMap.get? k
  annotations : ∀ k, k ≠ referencesAnnotation → k ≠ managerAnnotation →
    m'.annotationMap.get? k = m.annotationMap.get? k

namespace MarkerCall

theorem recordedIn_of_tracks {m : ObjectMeta} {s : ObjectMeta × OwnerRecord} (hs : Tracks m s) :
    s.2.RecordedIn m s.1 := by
  have hlabels : s.1.labelMap = (s.2.onto (Tags.ofMetadata m)).labels :=
    congrArg Tags.labels hs.tags
  have hannotations : s.1.annotationMap = (s.2.onto (Tags.ofMetadata m)).annotations :=
    congrArg Tags.annotations hs.tags
  have hreferences : s.1.annotationMap.get? referencesAnnotation = s.2.listing := by
    rw [hannotations, OwnerRecord.get?_annotations_onto, if_neg (by decide), if_pos rfl]
  have hmanager : s.1.annotationMap.get? managerAnnotation = s.2.manager := by
    rw [hannotations, OwnerRecord.get?_annotations_onto, if_pos rfl]
  have hentries : Ownership.referenceEntries s.1 = s.2.references := by
    unfold Ownership.referenceEntries
    rw [hs.tags, OwnerRecord.references_onto hs.proper]
  have hreferenced : ∀ j : OwnerKey,
      Ownership.isReferencedBy j s.1 = .ok true ↔ j.toString ∈ s.2.references := by
    intro j
    have hlisted : j.toString ∈ ReferencedSet.listed (Tags.ofMetadata s.1).listing
        ↔ j.toString ∈ s.2.references := by
      rw [← ReferencedSet.mem_parse, ← Tags.references_eq, hs.tags,
        OwnerRecord.references_onto hs.proper]
    have hlinked : s.1.labelMap.get? linkedLabel = some linkedValue ↔ s.2.references ≠ [] := by
      rw [← OwnerRecord.isLinked_onto s.2 (Tags.ofMetadata m), hlabels]
      exact beq_iff_eq.symm
    rw [Ownership.isReferencedBy_iff, hlisted, hlinked]
    constructor
    · exact fun h => h.2.2
    · intro h
      exact ⟨(hs.proper.writable _ h).free, List.ne_nil_of_mem h, h⟩
  refine
    { label := ?_, references := ?_, noTrailing := ?_, entries := hentries, manager := hmanager,
      manager_mem := hs.proper.manager_mem, isReferencedBy := hreferenced, isManagedBy := ?_,
      object := hs.object, labels := ?_, annotations := ?_ }
  · rw [hlabels, OwnerRecord.get?_labels_onto, if_pos rfl]
    rfl
  · rw [hreferences]
    unfold OwnerRecord.listing
    rw [ReferencedSet.toString_eq_intercalate]
  · intro value hvalue
    rw [hreferences] at hvalue
    unfold OwnerRecord.listing at hvalue
    split at hvalue
    · cases hvalue
    · obtain rfl := Option.some.inj hvalue
      exact ReferencedSet.getLast?_toString hs.proper.writable
  · intro j
    have hmanaged : (Tags.ofMetadata s.1).manager = s.2.manager := hmanager
    rw [Ownership.isManagedBy_iff, hreferenced, hmanaged]
    constructor
    · exact fun h => h.2
    · exact fun h => ⟨hs.proper.manager_mem _ h, h⟩
  · intro k hk
    rw [hlabels, OwnerRecord.get?_labels_onto, if_neg hk]
    rfl
  · intro k hk hk'
    rw [hannotations, OwnerRecord.get?_annotations_onto, if_neg hk', if_neg hk]
    rfl

/-- Metadata without owners keeps the record of its owners through all marker calls: after any
calls it is what it was with the record in its tags, where refused calls left the record as it was,
and the next call is answered by the record. -/
theorem recordedIn_follow {m : ObjectMeta} (hm : Untagged m) {calls : List MarkerCall}
    (hcalls : ∀ c ∈ calls, c.Storable) :
    (follow m calls).2.RecordedIn m (follow m calls).1 ∧
      ∀ c : MarkerCall, c.Storable → c.on (follow m calls).1 = c.answer m (follow m calls) := by
  have htracks := tracks_follow hm hcalls
  exact ⟨recordedIn_of_tracks htracks, fun c hc => on_of_tracks htracks hc⟩

/-- Metadata of an object that somebody has labelled and annotated for other ends. -/
def annotated : ObjectMeta where
  name := some "db"
  labels := some (.singleton "team" "core")
  annotations := some (.singleton "note" "keep")

/-- A second owner takes over an object and gives it up again; the first one stays. -/
theorem recordedIn_follow_takeover :
    let a : OwnerKey := ⟨"team-a", "creds"⟩
    let b : OwnerKey := ⟨"team-b", "creds"⟩
    let calls := [markManaged a, markManaged b, unmarkManaged a, unmarkReferenced b]
    Untagged annotated ∧ (∀ c ∈ calls, c.Storable) ∧
      (follow annotated calls).2 = ⟨["team-a/creds"], none, by decide⟩ ∧
      (follow annotated calls).2.RecordedIn annotated (follow annotated calls).1 := by
  intro a b calls
  have huntagged : Untagged annotated := ⟨by decide, by decide, by decide⟩
  have hcalls : ∀ c ∈ calls, c.Storable := by
    intro c hc
    simp only [calls, List.mem_cons, List.not_mem_nil, or_false] at hc
    rcases hc with rfl | rfl | rfl | rfl <;> exact ⟨by decide, by decide⟩
  exact ⟨huntagged, hcalls, by decide, (recordedIn_follow huntagged hcalls).1⟩

end MarkerCall

end SecretSync
