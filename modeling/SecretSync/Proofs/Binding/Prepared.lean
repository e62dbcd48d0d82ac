import SecretSync.Proofs.Binding.Attempts
import SecretSync.Proofs.Ownership.Marking

/-!
# `SecretSync.Proofs.Binding.Prepared`: what a sync sends

A sync sends the wanted secret, put over the stored one and then marked. Name,
version and contents are those of the wanted secret (`sameObject_of_prepared`),
for every marker that is `Tagging`. The ownership tags are those that marking
gives it, and `ownershipTags_of_prepared` and `isReferencedBy_of_prepared` say
what they are. The references come from `SecretSpec.wantedReferences`: a spec
that wants the annotation replaces what was stored. The owner, and nobody else,
manages what is sent (`isManagedBy_of_prepared`, `eq_owner_of_isManagedBy`).
-/

set_option autoImplicit false

namespace SecretSync

/-- The value of the references annotation before marking: what the spec wants, or else what is
stored; empty if there is neither. -/
def SecretSpec.wantedReferences (spec : SecretSpec) (stored : Option Secret) : String :=
  ((spec.annotations.get? referencesAnnotation).or
    (stored.bind (·.metadata.annotationMap.get? referencesAnnotation))).getD ""

theorem getD_mergeWanted (existing : Option (SortedMap String)) (wanted : SortedMap String)
    (k : String) :
    ((mergeWanted existing wanted).getD .empty).get? k
      = (wanted.get? k).or ((existing.getD .empty).get? k) := by
  unfold mergeWanted
  split
  · rename_i h
    rw [SortedMap.get?_of_isEmpty h]
    rfl
  · exact SortedMap.get?_merge _ _ _

theorem getD_nonEmpty? (wanted : SortedMap String) (k : String) :
    (wanted.nonEmpty?.getD .empty).get? k = wanted.get? k := by
  unfold SortedMap.nonEmpty?
  split
  · rename_i h
    rw [SortedMap.get?_of_isEmpty h]
    rfl
  · rfl

/-- A secret that is put over a stored one has the wanted labels, and of the others those that were
stored. -/
theorem DesiredSecret.get?_labels_over (d : DesiredSecret) (ns : String) (stored : Option Secret)
    (k : String) :
    (d.over ns stored).metadata.labelMap.get? k
      = (d.spec.labels.get? k).or (stored.bind (·.metadata.labelMap.get? k)) := by
  cases stored with
  | none =>
    show (d.spec.labels.nonEmpty?.getD .empty).get? k = _
    rw [getD_nonEmpty?]
    simp
  | some stored => exact getD_mergeWanted stored.metadata.labels d.spec.labels k

/-- A secret that is put over a stored one has the wanted annotations, and of the others those that
were stored. -/
theorem DesiredSecret.get?_annotations_over (d : DesiredSecret) (ns : String)
    (stored : Option Secret) (k : String) :
    (d.over ns stored).metadata.annotationMap.get? k
      = (d.spec.annotations.get? k).or (stored.bind (·.metadata.annotationMap.get? k)) := by
  cases stored with
  | none =>
    show (d.spec.annotations.nonEmpty?.getD .empty).get? k = _
    rw [getD_nonEmpty?]
    simp
  | some stored => exact getD_mergeWanted stored.metadata.annotations d.spec.annotations k

/-- A name that reads as a text that is not empty is there. -/
theorem ObjectMeta.name_eq_some {m : ObjectMeta} {name : String} (h : m.nameText = name)
    (hn : name ≠ "") : m.name = some name := by
  unfold nameText at h
  cases hm : m.name with
  | none => rw [hm] at h; exact absurd h.symm hn
  | some given => rw [hm] at h; exact congrArg some h

/-- A marker that marks an object by its labels and annotations: nothing else of its metadata
changes. -/
class Marker.Tagging (marker : Marker) : Prop where
  sameObject {owner : OwnerKey} {m : ObjectMeta} {marked : Marked}
    (h : marker.markManaged owner m = .ok marked) : Ownership.sameObject m marked.metadata

instance : Marker.ofTags.Tagging := ⟨Ownership.sameObject_of_markManaged⟩

namespace Handler

variable {h : Handler} {t : DeploymentTarget} {d : DesiredSecret}

/-! ### Identity -/

section Identity
variable [h.marker.Tagging]

/-- What is sent is the wanted secret, labels and annotations aside. -/
theorem sameObject_of_prepared {stored : Option Secret} {secret : Secret}
    (hp : h.prepared d stored = .ok secret) :
    Ownership.sameObject (d.over h.target.ns stored).metadata secret.metadata ∧
      secret.data = (d.over h.target.ns stored).data := by
  obtain ⟨marked, hm, rfl⟩ := markManaged_of_prepared hp
  exact ⟨Marker.Tagging.sameObject hm, rfl⟩

/-- The wanted secret has the wanted name. -/
theorem name_of_prepared_none {secret : Secret} (hp : h.prepared d none = .ok secret) :
    secret.name = d.name ∧ secret.metadata.generateName = some d.generateName ∧
      secret.metadata.ns = some h.target.ns := by
  obtain ⟨hsame, -⟩ := sameObject_of_prepared hp
  unfold Ownership.sameObject at hsame
  refine ⟨?_, by rw [hsame]; rfl, by rw [hsame]; rfl⟩
  show secret.metadata.name.getD "" = d.name
  rw [hsame]
  show (if d.name.isEmpty then none else some d.name : Option String).getD "" = d.name
  split
  · rename_i hempty
    exact (String.isEmpty_iff.1 hempty).symm
  · rfl

/-- A secret that is put over a stored one keeps its name and its version. -/
theorem name_of_prepared_some {stored secret : Secret}
    (hp : h.prepared d (some stored) = .ok secret) :
    secret.metadata.name = stored.metadata.name ∧
      secret.metadata.resourceVersion = stored.metadata.resourceVersion := by
  obtain ⟨hsame, -⟩ := sameObject_of_prepared hp
  unfold Ownership.sameObject at hsame
  exact ⟨by rw [hsame]; rfl, by rw [hsame]; rfl⟩

end Identity

/-! ### Labels and annotations -/

/-- Only an owner whose key can be stored has anything sent. -/
theorem free_of_prepared {stored : Option Secret} {secret : Secret}
    (hp : (⟨t, .ofTags⟩ : Handler).prepared d stored = .ok secret) :
    ReferencedSet.delimiter ∉ t.owner.toString.toList := by
  obtain ⟨marked, hm, -⟩ := markManaged_of_prepared hp
  exact (Ownership.change_of_markManaged hm).1

/-- Outside its tag, a prepared secret has the labels of the wanted one. -/
theorem get?_labels_of_prepared {stored : Option Secret} {secret : Secret}
    (hp : (⟨t, .ofTags⟩ : Handler).prepared d stored = .ok secret) {k : String}
    (hk : k ≠ linkedLabel) :
    secret.metadata.labelMap.get? k
      = (d.spec.labels.get? k).or (stored.bind (·.metadata.labelMap.get? k)) := by
  obtain ⟨marked, hm, rfl⟩ := markManaged_of_prepared hp
  show marked.metadata.labelMap.get? k = _
  rw [Ownership.get?_labels_of_markManaged hm, if_neg hk]
  exact d.get?_labels_over t.ns stored k

/-- Outside its tags, a prepared secret has the annotations of the wanted one. -/
theorem get?_annotations_of_prepared {stored : Option Secret} {secret : Secret}
    (hp : (⟨t, .ofTags⟩ : Handler).prepared d stored = .ok secret) {k : String}
    (hreferences : k ≠ referencesAnnotation) (hmanager : k ≠ managerAnnotation) :
    secret.metadata.annotationMap.get? k
      = (d.spec.annotations.get? k).or (stored.bind (·.metadata.annotationMap.get? k)) := by
  obtain ⟨marked, hm, rfl⟩ := markManaged_of_prepared hp
  show marked.metadata.annotationMap.get? k = _
  rw [Ownership.get?_annotations_of_markManaged hm hreferences hmanager]
  exact d.get?_annotations_over t.ns stored k

/-! ### Ownership tags -/

theorem listing_over (d : DesiredSecret) (ns : String) (stored : Option Secret) :
    (Tags.ofMetadata (d.over ns stored).metadata).listing = d.spec.wantedReferences stored :=
  congrArg (·.getD "") (d.get?_annotations_over ns stored referencesAnnotation)

/-- The three tags of what is sent. -/
theorem ownershipTags_of_prepared {stored : Option Secret} {secret : Secret}
    (hp : (⟨t, .ofTags⟩ : Handler).prepared d stored = .ok secret) :
    Ownership.ownershipTags secret.metadata
      = (some linkedValue, some t.owner.toString,
          some (withReference t.owner.toString (d.spec.wantedReferences stored))) := by
  obtain ⟨marked, hm, rfl⟩ := markManaged_of_prepared hp
  have htags := Ownership.ownershipTags_of_markManaged hm
  rw [listing_over] at htags
  exact htags

/-- Who references what is sent. -/
theorem isReferencedBy_of_prepared {stored : Option Secret} {secret : Secret}
    (hp : (⟨t, .ofTags⟩ : Handler).prepared d stored = .ok secret) (j : OwnerKey) :
    Ownership.isReferencedBy j secret.metadata = .ok true ↔
      ReferencedSet.delimiter ∉ j.toString.toList ∧
      (j.toString ∈ ReferencedSet.listed (d.spec.wantedReferences stored) ∨
        j.toString = Text.trim t.owner.toString) := by
  obtain ⟨marked, hm, rfl⟩ := markManaged_of_prepared hp
  have hreferenced := Ownership.isReferencedBy_of_markManaged hm j
  rw [listing_over] at hreferenced
  exact hreferenced

/-- The owner manages what is sent, if its key reads back as it is written. -/
theorem isManagedBy_of_prepared {stored : Option Secret} {secret : Secret}
    (hp : (⟨t, .ofTags⟩ : Handler).prepared d stored = .ok secret)
    (htrim : Text.trim t.owner.toString = t.owner.toString) :
    Ownership.isManagedBy t.owner secret.metadata = .ok true := by
  have hfree := free_of_prepared hp
  obtain ⟨-, htags⟩ := Prod.mk.inj (ownershipTags_of_prepared hp)
  exact (Ownership.isManagedBy_iff _ _).2
    ⟨(isReferencedBy_of_prepared hp t.owner).2 ⟨hfree, .inr htrim.symm⟩, (Prod.mk.inj htags).1⟩

/-- Nobody but the owner manages what is sent. -/
theorem eq_owner_of_isManagedBy {stored : Option Secret} {secret : Secret}
    (hp : (⟨t, .ofTags⟩ : Handler).prepared d stored = .ok secret) {j : OwnerKey}
    (hj : Ownership.isManagedBy j secret.metadata = .ok true) :
    j.toString = t.owner.toString := by
  obtain ⟨-, htags⟩ := Prod.mk.inj (ownershipTags_of_prepared hp)
  have howner : (Tags.ofMetadata secret.metadata).manager = some t.owner.toString :=
    (Prod.mk.inj htags).1
  have hmanager := ((Ownership.isManagedBy_iff j secret.metadata).1 hj).2
  exact Option.some.inj (hmanager.symm.trans howner)

end Handler

end SecretSync
