import SecretSync.Proofs.Ownership.Marking

/-!
# `SecretSync.Proofs.Ownership.Record`: the record that the tags keep

The tags of an object stand for a simpler thing: the owners that reference it,
in the order in which they came, and the one that manages it. `OwnerRecord` is
that record, and `OwnerRecord.onto` writes it as tags over those that an object
has for other ends.

Each marker operation has a counterpart on records. `addReference_onto`,
`setManager_onto`, `removeManager_onto` and `dropReference_onto` say that the
operation on the tags of a record gives the tags of the next record, and when
it reports a change. They hold of a `Proper` record, whose entries read back;
the operations keep a record proper.
-/

set_option autoImplicit false

namespace SecretSync

/-! ### Tags that may be absent -/

namespace SortedMap

variable {α : Type}

/-- The map with `key` set to a value, or without it if there is none. -/
def setTo (m : SortedMap α) (key : String) : Option α → SortedMap α
  | none => m.erase key
  | some value => m.insert key value

theorem get?_setTo (m : SortedMap α) (key : String) (value : Option α) (k : String) :
    (m.setTo key value).get? k = if k = key then value else m.get? k := by
  cases value with
  | none => exact get?_erase m key k
  | some value => exact get?_insert m key value k

/-- Of two values for one key the later counts. -/
theorem setTo_setTo (m : SortedMap α) (key : String) (value value' : Option α) :
    (m.setTo key value).setTo key value' = m.setTo key value' := by
  refine ext_get? fun k => ?_
  rw [get?_setTo, get?_setTo, get?_setTo]
  split <;> rfl

/-- Values for different keys may be set in any order. -/
theorem setTo_comm (m : SortedMap α) {key key' : String} (h : key ≠ key')
    (value value' : Option α) :
    (m.setTo key value).setTo key' value' = (m.setTo key' value').setTo key value := by
  refine ext_get? fun k => ?_
  simp only [get?_setTo]
  by_cases hk : k = key
  · have hk' : k ≠ key' := fun he => h (hk.symm.trans he)
    rw [if_neg hk', if_pos hk, if_pos hk]
  · rw [if_neg hk, if_neg hk]

/-- Setting a key to what it has changes nothing. -/
theorem setTo_get? (m : SortedMap α) (key : String) : m.setTo key (m.get? key) = m := by
  refine ext_get? fun k => ?_
  rw [get?_setTo]
  split
  · rename_i h
    rw [h]
  · rfl

end SortedMap

/-! ### The record -/

/-- Who references an object, each once and oldest first, and who manages it. -/
structure OwnerRecord where
  references : List String
  manager : Option String
  nodup : references.Nodup
  deriving DecidableEq

namespace OwnerRecord

/-- The record of an object without owners. -/
def unowned : OwnerRecord := ⟨[], none, List.nodup_nil⟩

/-- An owner that is new comes last. -/
def reference (o : OwnerRecord) (key : String) : OwnerRecord :=
  if h : key ∈ o.references then o
  else ⟨o.references ++ [key], o.manager, List.nodup_append.2
    ⟨o.nodup, List.pairwise_singleton _ key,
      fun _ ha _ hb he => h (List.mem_singleton.1 hb ▸ he ▸ ha)⟩⟩

/-- The owner references the object and takes the place of any manager. -/
def manage (o : OwnerRecord) (key : String) : OwnerRecord :=
  { o.reference key with manager := some key }

/-- The owner manages the object no longer. -/
def release (o : OwnerRecord) (key : String) : OwnerRecord :=
  if o.manager = some key then { o with manager := none } else o

/-- The owner is taken out of the references; the manager stays. -/
def drop (o : OwnerRecord) (key : String) : OwnerRecord :=
  ⟨o.references.erase key, o.manager, o.nodup.erase key⟩

/-- The owner neither references nor manages the object. -/
def unreference (o : OwnerRecord) (key : String) : OwnerRecord := (o.release key).drop key

/-- The label of the record. -/
def label (o : OwnerRecord) : Option String :=
  if o.references = [] then none else some linkedValue

/-- The references annotation of the record. -/
def listing (o : OwnerRecord) : Option String :=
  if o.references = [] then none else some (ReferencedSet.toString ⟨o.references⟩)

/-- The record written over tags. -/
def onto (o : OwnerRecord) (base : Tags) : Tags where
  labels := base.labels.setTo linkedLabel o.label
  annotations :=
    (base.annotations.setTo referencesAnnotation o.listing).setTo managerAnnotation o.manager

/-- Records agree if their references and their managers do. -/
theorem ext_fields {o o' : OwnerRecord} (hreferences : o.references = o'.references)
    (hmanager : o.manager = o'.manager) : o = o' := by
  cases o
  cases o'
  obtain rfl : _ = _ := hreferences
  obtain rfl : _ = _ := hmanager
  rfl

theorem references_reference (o : OwnerRecord) (key : String) :
    (o.reference key).references
      = if key ∈ o.references then o.references else o.references ++ [key] := by
  unfold reference
  split <;> rfl

theorem manager_reference (o : OwnerRecord) (key : String) :
    (o.reference key).manager = o.manager := by
  unfold reference
  split <;> rfl

theorem references_release (o : OwnerRecord) (key : String) :
    (o.release key).references = o.references := by
  unfold release
  split <;> rfl

theorem manager_release (o : OwnerRecord) (key : String) :
    (o.release key).manager = if o.manager = some key then none else o.manager := by
  unfold release
  split <;> rfl

theorem mem_references_reference (o : OwnerRecord) (key k : String) :
    k ∈ (o.reference key).references ↔ k ∈ o.references ∨ k = key := by
  rw [references_reference]
  split
  · rename_i h
    constructor
    · exact .inl
    · rintro (hk | rfl)
      · exact hk
      · exact h
  · rw [List.mem_append, List.mem_singleton]

theorem mem_references_drop (o : OwnerRecord) (key k : String) :
    k ∈ (o.drop key).references ↔ k ≠ key ∧ k ∈ o.references :=
  o.nodup.mem_erase_iff

/-- What holds of a record whose owners can be written: the entries read back, and the manager is
one of them. -/
structure Proper (o : OwnerRecord) : Prop where
  writable : ∀ key ∈ o.references, ReferencedSet.Writable key
  manager_mem : ∀ key ∈ o.manager, key ∈ o.references

theorem proper_unowned : unowned.Proper :=
  ⟨fun _ h => absurd h List.not_mem_nil, fun _ h => nomatch h⟩

variable {o : OwnerRecord} {base : Tags} {key : String}

/-! ### Reading the written record -/

theorem get?_labels_onto (o : OwnerRecord) (base : Tags) (k : String) :
    (o.onto base).labels.get? k = if k = linkedLabel then o.label else base.labels.get? k :=
  SortedMap.get?_setTo _ _ _ _

theorem get?_annotations_onto (o : OwnerRecord) (base : Tags) (k : String) :
    (o.onto base).annotations.get? k
      = if k = managerAnnotation then o.manager
        else if k = referencesAnnotation then o.listing else base.annotations.get? k := by
  unfold onto
  rw [SortedMap.get?_setTo, SortedMap.get?_setTo]

theorem manager_onto (o : OwnerRecord) (base : Tags) : (o.onto base).manager = o.manager := by
  unfold Tags.manager
  rw [get?_annotations_onto, if_pos rfl]

theorem isLinked_onto (o : OwnerRecord) (base : Tags) :
    (o.onto base).isLinked = true ↔ o.references ≠ [] := by
  unfold Tags.isLinked
  rw [get?_labels_onto, if_pos rfl, beq_iff_eq]
  unfold label
  split
  · rename_i h
    simp [h]
  · rename_i h
    simp [h]

/-- The written references are read back. -/
theorem references_onto (ho : o.Proper) (base : Tags) :
    (o.onto base).references = ⟨o.references⟩ := by
  unfold Tags.references
  rw [get?_annotations_onto, if_neg (by decide), if_pos rfl]
  unfold listing
  by_cases h : o.references = []
  · rw [if_pos h, h]
    rfl
  · rw [if_neg h]
    exact ReferencedSet.parse_toString o.nodup ho.writable

/-- Tags without ownership tags are those of the record without owners. -/
theorem unowned_onto (hlabel : base.labels.get? linkedLabel = none)
    (hreferences : base.annotations.get? referencesAnnotation = none)
    (hmanager : base.annotations.get? managerAnnotation = none) : unowned.onto base = base := by
  have hlabels : base.labels.setTo linkedLabel none = base.labels :=
    hlabel ▸ SortedMap.setTo_get? base.labels linkedLabel
  have hfirst : base.annotations.setTo referencesAnnotation none = base.annotations :=
    hreferences ▸ SortedMap.setTo_get? base.annotations referencesAnnotation
  have hsecond : base.annotations.setTo managerAnnotation none = base.annotations :=
    hmanager ▸ SortedMap.setTo_get? base.annotations managerAnnotation
  show (⟨base.labels.setTo linkedLabel none,
    (base.annotations.setTo referencesAnnotation none).setTo managerAnnotation none⟩ : Tags) = base
  rw [hlabels, hfirst, hsecond]

/-! ### The operations on the written record -/

/-- Setting both tags of the references gives the record with those references. -/
theorem set_references_onto (o o' : OwnerRecord) (base : Tags)
    (hmanager : o'.manager = o.manager) :
    (⟨(o.onto base).labels.setTo linkedLabel o'.label,
        (o.onto base).annotations.setTo referencesAnnotation o'.listing⟩ : Tags)
      = o'.onto base := by
  unfold onto
  rw [SortedMap.setTo_setTo, SortedMap.setTo_comm _ (by decide), SortedMap.setTo_setTo,
    ← hmanager]

/-- Setting the manager gives the record with that manager. -/
theorem set_manager_onto (o o' : OwnerRecord) (base : Tags)
    (hreferences : o'.references = o.references) :
    ({ o.onto base with
        annotations := (o.onto base).annotations.setTo managerAnnotation o'.manager } : Tags)
      = o'.onto base := by
  unfold onto label listing
  rw [SortedMap.setTo_setTo, hreferences]

theorem setManager_onto (o : OwnerRecord) (base : Tags) (key : String) :
    (o.onto base).setManager key
      = (({ o with manager := some key } : OwnerRecord).onto base,
          decide (o.manager ≠ some key)) := by
  unfold Tags.setManager
  rw [manager_onto]
  by_cases h : o.manager = some key
  · have hsame : ({ o with manager := some key } : OwnerRecord) = o := ext_fields rfl h.symm
    rw [if_pos h, hsame]
    simp [h]
  · rw [if_neg h]
    exact Prod.ext (set_manager_onto o { o with manager := some key } base rfl)
      (by simp [h])

theorem removeManager_onto (o : OwnerRecord) (base : Tags) (key : String) :
    (o.onto base).removeManager key
      = ((o.release key).onto base, decide (o.manager = some key)) := by
  unfold Tags.removeManager release
  rw [manager_onto]
  by_cases h : o.manager = some key
  · rw [if_pos h, if_pos h]
    exact Prod.ext (set_manager_onto o { o with manager := none } base rfl)
      (by simp [h])
  · rw [if_neg h, if_neg h]
    simp [h]

/-- An owner that is listed already is found by its label too, so nothing changes; a new one is
appended. -/
theorem addReference_onto (ho : o.Proper) (base : Tags) (key : String) :
    (o.onto base).addReference key
      = ((o.reference key).onto base, decide (key ∉ o.references)) := by
  have hcontains : (o.onto base).references.contains key = decide (key ∈ o.references) := by
    rw [references_onto ho]
    exact List.contains_eq_mem key o.references
  by_cases h : key ∈ o.references
  · have hlinked : (o.onto base).isLinked = true :=
      (isLinked_onto o base).2 (List.ne_nil_of_mem h)
    have hsame : o.reference key = o := dif_pos h
    unfold Tags.addReference
    rw [hcontains, hsame]
    simp [h, hlinked]
  · -- The new references annotation is written first; whether the label is written too depends
    -- on what was there, but it is there in the end.
    have hreferences : (o.reference key).references = o.references ++ [key] := by
      rw [references_reference, if_neg h]
    have hlabel : (o.reference key).label = some linkedValue := by
      unfold label
      rw [hreferences]
      simp
    have hlisting : (o.reference key).listing
        = some (withReference key (o.onto base).listing) := by
      unfold listing withReference
      rw [← Tags.references_eq, hcontains, hreferences, references_onto ho]
      simp [h, ReferencedSet.add, ReferencedSet.contains]
    have hsteps : ∀ t' : Tags,
        (if t'.isLinked then (t', true)
          else ({ t' with labels := t'.labels.insert linkedLabel linkedValue }, true)).2
            = true := by
      intro t'
      split <;> rfl
    have hchanged : ((o.onto base).addReference key).2 = true := by
      unfold Tags.addReference
      rw [hcontains, decide_eq_false h]
      exact hsteps _
    refine Prod.ext ?_ (hchanged.trans (decide_eq_true h).symm)
    rw [Tags.addReference_fst]
    have hwritten := set_references_onto o (o.reference key) base (manager_reference o key)
    rw [hlabel, hlisting] at hwritten
    exact hwritten

/-- With the last owner the tags go; otherwise the others are written. -/
theorem dropReference_onto (ho : o.Proper) (base : Tags) (key : String) :
    (o.onto base).dropReference key = ((o.drop key).onto base, decide (key ∈ o.references)) := by
  have hrest : (o.onto base).references.remove key = ⟨o.references.erase key⟩ := by
    rw [references_onto ho]
    exact congrArg ReferencedSet.mk (o.nodup.erase_eq_filter key).symm
  have hcontains : (o.onto base).references.contains key = decide (key ∈ o.references) := by
    rw [references_onto ho]
    exact List.contains_eq_mem key o.references
  have hwritten := set_references_onto o (o.drop key) base rfl
  unfold Tags.dropReference
  simp only [hrest, hcontains]
  by_cases hempty : o.references.erase key = []
  · have hlabel : (o.drop key).label = none := if_pos hempty
    have hlisting : (o.drop key).listing = none := if_pos hempty
    have hgone : (ReferencedSet.mk (o.references.erase key)).isEmpty = true :=
      List.isEmpty_iff.2 hempty
    rw [hlabel, hlisting] at hwritten
    rw [if_pos hgone]
    refine Prod.ext hwritten ?_
    -- Both tags were there if anyone was listed, and that can only have been this owner.
    have hlisted : o.references ≠ [] → key ∈ o.references := by
      intro hne
      apply Classical.byContradiction
      intro hnew
      exact hne (List.erase_of_not_mem hnew ▸ hempty)
    show (((o.onto base).annotations.get? referencesAnnotation).isSome
        || ((o.onto base).labels.get? linkedLabel).isSome) = _
    rw [get?_annotations_onto, get?_labels_onto, if_neg (by decide), if_pos rfl, if_pos rfl]
    unfold label listing
    by_cases h : o.references = []
    · simp [h]
    · simp [h, hlisted h]
  · rw [if_neg (by simpa [ReferencedSet.isEmpty] using hempty)]
    by_cases h : key ∈ o.references
    · have hlabel : (o.drop key).label = some linkedValue := if_neg hempty
      have hlisting : (o.drop key).listing
          = some (ReferencedSet.toString ⟨o.references.erase key⟩) := if_neg hempty
      -- The label stays, and writing it once more would change nothing.
      have hlabels : (o.onto base).labels.setTo linkedLabel (some linkedValue)
          = (o.onto base).labels :=
        SortedMap.insert_of_get?
          (beq_iff_eq.1 ((isLinked_onto o base).2 (List.ne_nil_of_mem h)))
      rw [hlabel, hlisting, hlabels] at hwritten
      rw [if_pos (decide_eq_true h)]
      exact Prod.ext hwritten (decide_eq_true h).symm
    · have hsame : o.drop key = o := ext_fields (List.erase_of_not_mem h) rfl
      rw [hsame, if_neg (by simpa using h)]
      exact Prod.ext rfl (decide_eq_false h).symm

/-! ### Operations that change nothing -/

theorem reference_eq_iff (o : OwnerRecord) (key : String) :
    o.reference key = o ↔ key ∈ o.references := by
  constructor
  · intro h
    rw [← h, references_reference]
    split
    · assumption
    · exact List.mem_append_right _ (List.mem_singleton_self key)
  · exact fun h => dif_pos h

theorem manage_eq_iff (o : OwnerRecord) (key : String) :
    o.manage key = o ↔ key ∈ o.references ∧ o.manager = some key := by
  constructor
  · intro h
    have hmanager : some key = o.manager := congrArg manager h
    have hreferences : (o.manage key).references = o.references := congrArg references h
    have hsame : o.reference key = o := ext_fields hreferences (manager_reference o key)
    exact ⟨(reference_eq_iff o key).1 hsame, hmanager.symm⟩
  · rintro ⟨hlisted, hmanager⟩
    have hsame : o.reference key = o := (reference_eq_iff o key).2 hlisted
    unfold manage
    rw [hsame]
    exact ext_fields rfl hmanager.symm

theorem release_eq_iff (o : OwnerRecord) (key : String) :
    o.release key = o ↔ o.manager ≠ some key := by
  constructor
  · intro h hmanager
    have hgone := manager_release o key
    rw [h, if_pos hmanager, hmanager] at hgone
    cases hgone
  · exact fun h => if_neg h

theorem unreference_eq_iff (o : OwnerRecord) (key : String) :
    o.unreference key = o ↔ o.manager ≠ some key ∧ key ∉ o.references := by
  constructor
  · intro h
    have hmanager : (o.unreference key).manager = o.manager := congrArg manager h
    have hreferences : (o.unreference key).references = o.references := congrArg references h
    have hsame : o.release key = o := ext_fields (references_release o key) hmanager
    refine ⟨(release_eq_iff o key).1 hsame, ?_⟩
    intro hlisted
    rw [← hreferences] at hlisted
    exact ((mem_references_drop _ key key).1 hlisted).1 rfl
  · rintro ⟨hmanager, hnew⟩
    have hsame : o.release key = o := (release_eq_iff o key).2 hmanager
    unfold unreference
    rw [hsame]
    exact ext_fields (List.erase_of_not_mem hnew) rfl

/-! ### Proper records -/

theorem Proper.reference (ho : o.Proper) (hkey : ReferencedSet.Writable key) :
    (o.reference key).Proper where
  writable := by
    intro k hk
    rcases (mem_references_reference o key k).1 hk with hk | rfl
    · exact ho.writable k hk
    · exact hkey
  manager_mem := by
    intro k hk
    rw [manager_reference] at hk
    exact (mem_references_reference o key k).2 (.inl (ho.manager_mem k hk))

theorem Proper.manage (ho : o.Proper) (hkey : ReferencedSet.Writable key) :
    (o.manage key).Proper where
  writable := (ho.reference hkey).writable
  manager_mem := by
    intro k hk
    obtain rfl : key = k := Option.some.inj hk
    exact (mem_references_reference o key key).2 (.inr rfl)

theorem Proper.release (ho : o.Proper) (key : String) : (o.release key).Proper where
  writable := by
    rw [references_release]
    exact ho.writable
  manager_mem := by
    intro k hk
    rw [manager_release] at hk
    rw [references_release]
    split at hk
    · cases hk
    · exact ho.manager_mem k hk

/-- An owner that stops referencing has stopped managing, so the manager is never dropped. -/
theorem Proper.unreference (ho : o.Proper) (key : String) : (o.unreference key).Proper where
  writable := by
    intro k hk
    exact (ho.release key).writable k ((mem_references_drop _ key k).1 hk).2
  manager_mem := by
    intro k hk
    have hmanager : k ∈ (o.release key).manager := hk
    refine (mem_references_drop _ key k).2 ⟨?_, (ho.release key).manager_mem k hmanager⟩
    rintro rfl
    rw [manager_release] at hmanager
    split at hmanager
    · cases hmanager
    · rename_i hother
      exact hother hmanager

end OwnerRecord

end SecretSync
