import SecretSync.Ownership.Marker
import SecretSync.Proofs.ReferencedSet

/-!
# `SecretSync.Proofs.Ownership.Marking`: what marking changes

A marker operation edits the metadata in place. `updateTags_on` says what it
leaves there: what `change` makes of a copy, or, if it is refused, what was
there (`updateFor_of_refused`). An object that would not change is left alone.
Nothing but the labels and the annotations changes (`sameObject_of_change`).

For marking with a manager, `ofMetadata_of_markManaged` says that the metadata
carries the new tags, changed or not, and `ownershipTags_of_markManaged` says
what the three tags are then. The label and the manager do not depend on what
was there before. The references do: `withReference` is the value that they
get, and `mem_listed_withReference` says whom it lists.

`isReferencedBy_iff` and `isManagedBy_iff` say what an object tells about its
owners in terms of its tags, `manages` is the second of these as a Boolean, and
`isReferencedBy_of_markManaged` says what a marked object tells.
-/

set_option autoImplicit false

namespace SecretSync

/-! ### Edits -/

namespace Edit

variable {e : Edit} {m : ObjectMeta}

/-- The copy of an edit that is accepted is what it leaves in place. -/
theorem on_of_mark {marked : Marked} (h : e.mark m = .ok marked) :
    e.on m = (.ok marked.changed, marked.metadata) := by
  unfold mark at h
  split at h
  · rename_i hon
    rw [hon, ← Except.ok.inj h]
  · cases h

/-- An edit of a copy is refused as it is in place. -/
theorem on_of_mark_refused {refusal : MarkerError} (h : e.mark m = .error refusal) :
    (e.on m).1 = .error refusal := by
  unfold mark at h
  split at h
  · cases h
  · rename_i hon
    rw [hon, ← Except.error.inj h]

/-- An edit that begins with a look at the metadata. -/
theorem on_get_bind (k : ObjectMeta → Edit) (m : ObjectMeta) :
    Edit.on (get >>= k) m = (k m).on m := rfl

end Edit

namespace Ownership

/-- The same object with other labels and annotations. -/
def sameObject (m m' : ObjectMeta) : Prop :=
  m' = { m with labels := m'.labels, annotations := m'.annotations }

/-! ### In place and in a copy -/

/-- What an edit of the tags makes of a copy of the metadata. -/
def change (f : Tags → Tags × Bool) (m : ObjectMeta) : Except MarkerError Marked :=
  let (t, changed) := f (Tags.ofMetadata m)
  if !changed then .ok ⟨false, m⟩
  else
    let size := annotationBytes t.annotations
    if size > annotationLimit then .error (.annotationsTooLarge size annotationLimit)
    else .ok ⟨true, t.writeTo m⟩

variable {f : Tags → Tags × Bool} {op : String → Tags → Tags × Bool} {m : ObjectMeta}
  {marked : Marked} {owner : OwnerKey}

/-- In place, an edit of the tags leaves what it makes of a copy. Nothing is written before it may
refuse, so with a refusal it leaves what was there. -/
theorem updateTags_on (f : Tags → Tags × Bool) (m : ObjectMeta) :
    (updateTags f).on m = match change f m with
      | .ok marked => (.ok marked.changed, marked.metadata)
      | .error e => (.error e, m) := by
  unfold updateTags change
  rw [Edit.on_get_bind]
  obtain ⟨t, changed⟩ := f (Tags.ofMetadata m)
  dsimp only
  -- Both end in the same three ways: nothing changes, there is too much, or it is written.
  split
  · rfl
  · split <;> rfl

/-- A key without a stored form is refused first. -/
theorem updateFor_on (op : String → Tags → Tags × Bool) (owner : OwnerKey) (m : ObjectMeta) :
    (updateFor owner op).on m = match storedKey owner with
      | .ok key => (updateTags (op key)).on m
      | .error e => (.error e, m) := by
  unfold updateFor
  cases storedKey owner <;> rfl

/-- The marker operations that write change the tags by the stored key. -/
theorem mark_updateFor (op : String → Tags → Tags × Bool) (owner : OwnerKey) (m : ObjectMeta) :
    (updateFor owner op).mark m = storedKey owner >>= fun key => change (op key) m := by
  unfold Edit.mark
  rw [updateFor_on]
  cases storedKey owner with
  | error e => rfl
  | ok key =>
    dsimp only
    rw [updateTags_on]
    show _ = change (op key) m
    cases change (op key) m <;> rfl

/-- An edit that is refused leaves the metadata as it was, whatever it is. -/
theorem updateFor_of_refused {e : MarkerError} (h : ((updateFor owner op).on m).1 = .error e) :
    ((updateFor owner op).on m).2 = m := by
  rw [updateFor_on] at h ⊢
  cases hkey : storedKey owner with
  | error e => rfl
  | ok key =>
    rw [hkey] at h
    dsimp only at h ⊢
    rw [updateTags_on] at h ⊢
    cases hchange : change (op key) m with
    | error e => rfl
    | ok marked =>
      rw [hchange] at h
      cases h

/-! ### What a change changes -/

/-- A change that succeeds leaves the object as it is, or writes the new tags to it. -/
theorem change_cases (h : change f m = .ok marked) :
    ((f (Tags.ofMetadata m)).2 = false ∧ marked = ⟨false, m⟩) ∨
      ((f (Tags.ofMetadata m)).2 = true ∧
        marked = ⟨true, (f (Tags.ofMetadata m)).1.writeTo m⟩) := by
  simp only [change] at h
  split at h
  · rename_i hsame
    exact .inl ⟨by simpa using hsame, (Except.ok.inj h).symm⟩
  · rename_i hchanged
    split at h
    · cases h
    · exact .inr ⟨by simpa using hchanged, (Except.ok.inj h).symm⟩

/-- A change touches the labels and the annotations only. -/
theorem sameObject_of_change (h : change f m = .ok marked) : sameObject m marked.metadata := by
  rcases change_cases h with ⟨-, rfl⟩ | ⟨-, rfl⟩ <;> rfl

/-- A key that is stored has no delimiter and is stored as it is written. -/
theorem storedKey_ok {key : String} (h : storedKey owner = .ok key) :
    key = owner.toString ∧ ReferencedSet.delimiter ∉ owner.toString.toList := by
  unfold storedKey at h
  split at h
  · cases h
  · rename_i hfree
    exact ⟨(Except.ok.inj h).symm, hfree⟩

theorem storedKey_of_free (hfree : ReferencedSet.delimiter ∉ owner.toString.toList) :
    storedKey owner = .ok owner.toString := if_neg hfree

theorem storedKey_of_delimiter (hmem : ReferencedSet.delimiter ∈ owner.toString.toList) :
    storedKey owner = .error (.invalidOwnerKey owner.toString) := if_pos hmem

/-- A marker operation that succeeds has a key to store, and changes the tags by it. -/
theorem change_of_stored (h : (updateFor owner op).mark m = .ok marked) :
    ReferencedSet.delimiter ∉ owner.toString.toList ∧
      change (op owner.toString) m = .ok marked := by
  rw [mark_updateFor] at h
  cases hkey : storedKey owner with
  | error e =>
    rw [hkey] at h
    cases h
  | ok key =>
    obtain ⟨rfl, hfree⟩ := storedKey_ok hkey
    rw [hkey] at h
    exact ⟨hfree, h⟩

theorem change_of_markManaged (h : markManaged owner m = .ok marked) :
    ReferencedSet.delimiter ∉ owner.toString.toList ∧
      change (·.addManager owner.toString) m = .ok marked :=
  change_of_stored h

theorem markManaged_of_free (hfree : ReferencedSet.delimiter ∉ owner.toString.toList)
    (m : ObjectMeta) : markManaged owner m = change (·.addManager owner.toString) m := by
  unfold markManaged
  rw [mark_updateFor, storedKey_of_free hfree]
  rfl

/-- Marking touches the labels and the annotations only. -/
theorem sameObject_of_markManaged (h : markManaged owner m = .ok marked) :
    sameObject m marked.metadata :=
  sameObject_of_change (change_of_markManaged h).2

/-- Unlinking touches the labels and the annotations only. -/
theorem sameObject_of_unmarkReferenced (h : unmarkReferenced owner m = .ok marked) :
    sameObject m marked.metadata :=
  sameObject_of_change (change_of_stored h).2

end Ownership

/-! ### The new tags -/

/-- The value of the references annotation after an owner was added: as it was if it lists the
owner, and else written anew. -/
def withReference (key value : String) : String :=
  if (ReferencedSet.parse value).contains key then value
  else ((ReferencedSet.parse value).add key).toString

/-- The value lists who was listed before, and the trimmed owner. -/
theorem mem_listed_withReference {key : String} (hkey : ReferencedSet.delimiter ∉ key.toList)
    (hne : Text.trim key ≠ "") (value x : String) :
    x ∈ ReferencedSet.listed (withReference key value) ↔
      x ∈ ReferencedSet.listed value ∨ x = Text.trim key := by
  unfold withReference
  split
  · -- A listed owner has no blanks around it, so it is its own trimmed form.
    rename_i h
    have hlisted := (ReferencedSet.mem_parse value key).1 ((ReferencedSet.contains_iff _ _).1 h)
    rw [ReferencedSet.trim_of_mem_listed hlisted]
    constructor
    · exact .inl
    · rintro (hx | rfl)
      · exact hx
      · exact hlisted
  · exact ReferencedSet.mem_listed_add hkey hne x

/-- The slash of a key stays when the key is trimmed. -/
theorem OwnerKey.trim_toString_ne_empty (owner : OwnerKey) : Text.trim owner.toString ≠ "" := by
  intro h
  have hslash : OwnerKey.separator ∈ owner.toString.toList := by
    rw [OwnerKey.toList_toString]
    simp
  -- The slash is no blank, and trimming takes blanks only.
  have hkept := Text.mem_trimChars_of_not_blank hslash (by decide)
  have hnone : Text.trimChars owner.toString.toList = [] := by
    rw [← String.toList_ofList (l := Text.trimChars owner.toString.toList)]
    exact congrArg String.toList h
  rw [hnone] at hkept
  cases hkept

namespace Tags

/-- The value of the references annotation, empty if there is none. -/
def listing (t : Tags) : String := (t.annotations.get? referencesAnnotation).getD ""

variable (t : Tags) (key : String)

theorem references_eq : t.references = ReferencedSet.parse t.listing := by
  unfold references listing
  cases t.annotations.get? referencesAnnotation with
  | none => decide
  | some value => rfl

/-- An annotation that lists an owner is there. -/
theorem get?_of_listed (h : (ReferencedSet.parse t.listing).contains key = true) :
    t.annotations.get? referencesAnnotation = some t.listing := by
  unfold listing at h ⊢
  cases hget : t.annotations.get? referencesAnnotation with
  | none =>
    rw [hget] at h
    obtain hmem : key ∈ ([] : List String) := (ReferencedSet.contains_iff _ key).1 h
    cases hmem
  | some value => rfl

/-- Adding a reference sets the label, and writes the annotation if it does not list the owner. -/
theorem addReference_fst :
    (t.addReference key).1
      = ⟨t.labels.insert linkedLabel linkedValue,
          t.annotations.insert referencesAnnotation (withReference key t.listing)⟩ := by
  have hlisted : (if t.references.contains key then t else t.setReferences (t.references.add key))
      = ⟨t.labels,
          t.annotations.insert referencesAnnotation (withReference key t.listing)⟩ := by
    rw [references_eq]
    unfold withReference
    split
    · -- Inserting the value that is there already gives the same annotations.
      rename_i h
      rw [SortedMap.insert_of_get? (get?_of_listed t key h)]
    · rfl
  have hlinked : ∀ (t' : Tags) (known : Bool),
      (if t'.isLinked then (t', known)
        else ({ t' with labels := t'.labels.insert linkedLabel linkedValue }, true)).1
        = { t' with labels := t'.labels.insert linkedLabel linkedValue } := by
    intro t' known
    split
    · rename_i h
      rw [SortedMap.insert_of_get? (beq_iff_eq.1 h)]
    · rfl
  unfold addReference
  rw [hlinked, hlisted]

theorem setManager_fst :
    (t.setManager key).1
      = { t with annotations := t.annotations.insert managerAnnotation key } := by
  unfold setManager
  split
  · rename_i h
    rw [SortedMap.insert_of_get? h]
  · rfl

/-- Making an owner the manager sets all three tags. -/
theorem addManager_fst :
    (t.addManager key).1
      = ⟨t.labels.insert linkedLabel linkedValue,
          (t.annotations.insert referencesAnnotation (withReference key t.listing)).insert
            managerAnnotation key⟩ := by
  show ((t.addReference key).1.setManager key).1 = _
  rw [setManager_fst, addReference_fst]

variable {t key}

/-- A reference changes nothing if it is there already and the label too. -/
theorem addReference_snd_eq_false_iff :
    (t.addReference key).2 = false ↔ t.isLinked = true ∧ t.references.contains key = true := by
  have hsteps : ∀ (t' : Tags) (known : Bool),
      (if t'.isLinked then (t', !known)
        else ({ t' with labels := t'.labels.insert linkedLabel linkedValue }, true)).2 = false ↔
      t'.isLinked = true ∧ known = true := by
    intro t' known
    split <;> simp_all
  unfold addReference
  rw [hsteps]
  by_cases hknown : t.references.contains key = true
  · rw [if_pos hknown]
  · exact iff_of_false (fun h => hknown h.2) (fun h => hknown h.2)

theorem addReference_of_unchanged (h : (t.addReference key).2 = false) :
    (t.addReference key).1 = t := by
  obtain ⟨hlinked, hknown⟩ := addReference_snd_eq_false_iff.1 h
  -- The label is set and the owner is listed, so both inserts give back what is there.
  rw [references_eq] at hknown
  rw [addReference_fst, SortedMap.insert_of_get? (beq_iff_eq.1 hlinked), withReference,
    if_pos hknown, SortedMap.insert_of_get? (get?_of_listed t key hknown)]

/-- Marking changes nothing if the owner references and manages the object already. -/
theorem addManager_snd_eq_false_iff :
    (t.addManager key).2 = false ↔
      (t.isLinked = true ∧ t.references.contains key = true) ∧ t.manager = some key := by
  have hmanager : ∀ t' : Tags, (t'.setManager key).2 = false ↔ t'.manager = some key := by
    intro t'
    unfold setManager
    split <;> simp_all
  show ((t.addReference key).2 || ((t.addReference key).1.setManager key).2) = false ↔ _
  rw [Bool.or_eq_false_iff, hmanager, ← addReference_snd_eq_false_iff]
  refine and_congr_right fun hsame => ?_
  rw [addReference_of_unchanged hsame]

/-- Marking that changes nothing leaves the tags as they are. -/
theorem addManager_of_unchanged (h : (t.addManager key).2 = false) :
    (t.addManager key).1 = t := by
  obtain ⟨hreferenced, hmanager⟩ := addManager_snd_eq_false_iff.1 h
  have hsame := addReference_of_unchanged (addReference_snd_eq_false_iff.2 hreferenced)
  show ((t.addReference key).1.setManager key).1 = t
  rw [hsame, setManager_fst, SortedMap.insert_of_get? hmanager]

end Tags

namespace Ownership

variable {m : ObjectMeta} {marked : Marked} {owner : OwnerKey}

/-- The three ownership tags: the label, the manager and the references. -/
def ownershipTags (m : ObjectMeta) : Option String × Option String × Option String :=
  (m.labelMap.get? linkedLabel, m.annotationMap.get? managerAnnotation,
    m.annotationMap.get? referencesAnnotation)

/-- Marked metadata carries the tags with the new manager. -/
theorem ofMetadata_of_markManaged (h : markManaged owner m = .ok marked) :
    Tags.ofMetadata marked.metadata = ((Tags.ofMetadata m).addManager owner.toString).1 := by
  rcases change_cases (change_of_markManaged h).2 with ⟨hsame, rfl⟩ | ⟨-, rfl⟩
  · exact (Tags.addManager_of_unchanged hsame).symm
  · rfl

/-- Marking sets the label and leaves the other labels as they are. -/
theorem get?_labels_of_markManaged (h : markManaged owner m = .ok marked) (k : String) :
    marked.metadata.labelMap.get? k
      = if k = linkedLabel then some linkedValue else m.labelMap.get? k := by
  have htags := ofMetadata_of_markManaged h
  rw [Tags.addManager_fst] at htags
  have hlabels : marked.metadata.labelMap = m.labelMap.insert linkedLabel linkedValue :=
    congrArg Tags.labels htags
  rw [hlabels, SortedMap.get?_insert]

/-- Marking leaves the annotations that are no ownership tags as they are. -/
theorem get?_annotations_of_markManaged (h : markManaged owner m = .ok marked) {k : String}
    (hreferences : k ≠ referencesAnnotation) (hmanager : k ≠ managerAnnotation) :
    marked.metadata.annotationMap.get? k = m.annotationMap.get? k := by
  have htags := ofMetadata_of_markManaged h
  rw [Tags.addManager_fst] at htags
  have hannotations : marked.metadata.annotationMap = _ := congrArg Tags.annotations htags
  rw [hannotations, SortedMap.get?_insert, if_neg hmanager, SortedMap.get?_insert,
    if_neg hreferences]
  rfl

/-- The three tags after marking. -/
theorem ownershipTags_of_markManaged (h : markManaged owner m = .ok marked) :
    ownershipTags marked.metadata
      = (some linkedValue, some owner.toString,
          some (withReference owner.toString (Tags.ofMetadata m).listing)) := by
  have htags := ofMetadata_of_markManaged h
  rw [Tags.addManager_fst] at htags
  have hlabels : marked.metadata.labelMap = _ := congrArg Tags.labels htags
  have hannotations : marked.metadata.annotationMap = _ := congrArg Tags.annotations htags
  unfold ownershipTags
  rw [hlabels, hannotations]
  simp only [SortedMap.get?_insert]
  rfl

/-- An owner whose key has a stored form is told whether it references the object. -/
theorem isReferencedBy_of_free (hfree : ReferencedSet.delimiter ∉ owner.toString.toList)
    (m : ObjectMeta) :
    isReferencedBy owner m
      = .ok ((Tags.ofMetadata m).isLinked &&
          (Tags.ofMetadata m).references.contains owner.toString) := by
  unfold isReferencedBy
  rw [storedKey_of_free hfree]
  rfl

/-- It is told whether it manages the object too. -/
theorem isManagedBy_eq_and (hfree : ReferencedSet.delimiter ∉ owner.toString.toList)
    (m : ObjectMeta) :
    isManagedBy owner m
      = .ok (((Tags.ofMetadata m).isLinked &&
          (Tags.ofMetadata m).references.contains owner.toString) &&
          (Tags.ofMetadata m).manager == some owner.toString) := by
  unfold isManagedBy
  rw [storedKey_of_free hfree, isReferencedBy_of_free hfree]
  cases h : ((Tags.ofMetadata m).isLinked &&
    (Tags.ofMetadata m).references.contains owner.toString) <;> rfl

/-- A key with the delimiter has no stored form, and is refused whatever the metadata says. -/
theorem isReferencedBy_of_delimiter (hmem : ReferencedSet.delimiter ∈ owner.toString.toList)
    (m : ObjectMeta) : isReferencedBy owner m = .error (.invalidOwnerKey owner.toString) := by
  unfold isReferencedBy
  rw [storedKey_of_delimiter hmem]
  rfl

theorem isManagedBy_of_delimiter (hmem : ReferencedSet.delimiter ∈ owner.toString.toList)
    (m : ObjectMeta) : isManagedBy owner m = .error (.invalidOwnerKey owner.toString) := by
  unfold isManagedBy
  rw [storedKey_of_delimiter hmem]
  rfl

/-- Who references an object: the label is set and the annotation lists the owner. -/
theorem isReferencedBy_iff (j : OwnerKey) (m : ObjectMeta) :
    isReferencedBy j m = .ok true ↔ ReferencedSet.delimiter ∉ j.toString.toList ∧
      m.labelMap.get? linkedLabel = some linkedValue ∧
      j.toString ∈ ReferencedSet.listed (Tags.ofMetadata m).listing := by
  by_cases hmem : ReferencedSet.delimiter ∈ j.toString.toList
  · rw [isReferencedBy_of_delimiter hmem]
    exact iff_of_false nofun fun h => h.1 hmem
  · rw [isReferencedBy_of_free hmem, Except.ok.injEq, Bool.and_eq_true,
      ReferencedSet.contains_iff, Tags.references_eq, ReferencedSet.mem_parse]
    constructor
    · rintro ⟨hlinked, hlisted⟩
      exact ⟨hmem, beq_iff_eq.1 hlinked, hlisted⟩
    · rintro ⟨-, hlinked, hlisted⟩
      exact ⟨beq_iff_eq.2 hlinked, hlisted⟩

/-- Who manages an object: it references the object and is its manager. -/
theorem isManagedBy_iff (j : OwnerKey) (m : ObjectMeta) :
    isManagedBy j m = .ok true ↔
      isReferencedBy j m = .ok true ∧ (Tags.ofMetadata m).manager = some j.toString := by
  by_cases hmem : ReferencedSet.delimiter ∈ j.toString.toList
  · -- A key without a stored form manages nothing and references nothing.
    rw [isManagedBy_of_delimiter hmem]
    exact iff_of_false nofun fun h => ((isReferencedBy_iff j m).1 h.1).1 hmem
  · rw [isManagedBy_eq_and hmem, isReferencedBy_of_free hmem, Except.ok.injEq, Except.ok.injEq,
      Bool.and_eq_true, beq_iff_eq]

/-- An owner that is told to manage an object is listed, so its key has no blanks around it. -/
theorem trim_of_isManagedBy (h : isManagedBy owner m = .ok true) :
    Text.trim owner.toString = owner.toString :=
  ReferencedSet.trim_of_mem_listed
    ((isReferencedBy_iff owner m).1 ((isManagedBy_iff owner m).1 h).1).2.2

/-- An object has one manager. -/
theorem toString_eq_of_isManagedBy {owner' : OwnerKey}
    (h : isManagedBy owner m = .ok true) (h' : isManagedBy owner' m = .ok true) :
    owner.toString = owner'.toString :=
  Option.some.inj (((isManagedBy_iff owner m).1 h).2.symm.trans ((isManagedBy_iff owner' m).1 h').2)

/-- Whether the owner manages an object, where that has an answer. -/
def manages (owner : OwnerKey) (m : ObjectMeta) : Bool :=
  (isManagedBy owner m).toOption == some true

theorem manages_iff (owner : OwnerKey) (m : ObjectMeta) :
    manages owner m = true ↔ isManagedBy owner m = .ok true := by
  unfold manages
  cases isManagedBy owner m with
  | error e =>
    constructor <;> intro h <;> cases h
  | ok managed =>
    show (some managed == some true) = true ↔ _
    rw [beq_iff_eq, Option.some.injEq, Except.ok.injEq]

/-- For an owner whose key can be stored there is an answer about every object, however its tags
read. -/
theorem isManagedBy_of_free (hfree : ReferencedSet.delimiter ∉ owner.toString.toList)
    (m : ObjectMeta) : isManagedBy owner m = .ok (manages owner m) := by
  unfold manages
  rw [isManagedBy_eq_and hfree]
  generalize (((Tags.ofMetadata m).isLinked && _) && _) = managed
  cases managed <;> rfl

/-- Who references a marked object: whoever was listed, and the owner as it reads when trimmed. -/
theorem isReferencedBy_of_markManaged (h : markManaged owner m = .ok marked) (j : OwnerKey) :
    isReferencedBy j marked.metadata = .ok true ↔ ReferencedSet.delimiter ∉ j.toString.toList ∧
      (j.toString ∈ ReferencedSet.listed (Tags.ofMetadata m).listing ∨
        j.toString = Text.trim owner.toString) := by
  have hfree := (change_of_markManaged h).1
  have htags := ownershipTags_of_markManaged h
  obtain ⟨hlinked, htags⟩ := Prod.mk.inj htags
  obtain ⟨-, hreferences⟩ := Prod.mk.inj htags
  have hlisting : (Tags.ofMetadata marked.metadata).listing
      = withReference owner.toString (Tags.ofMetadata m).listing := by
    show (marked.metadata.annotationMap.get? referencesAnnotation).getD "" = _
    rw [hreferences]
    rfl
  rw [isReferencedBy_iff, hlisting,
    mem_listed_withReference hfree (OwnerKey.trim_toString_ne_empty owner)]
  constructor
  · exact fun hr => ⟨hr.1, hr.2.2⟩
  · exact fun hr => ⟨hr.1, hlinked, hr.2⟩

end Ownership

end SecretSync
