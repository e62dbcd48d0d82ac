import SecretSync.Proofs.Ownership.Settling

/-!
# `SecretSync.Proofs.Ownership.Bystanders`: calls of one owner and the others

All owners share one label, one text with the references and one place for the
manager, and a call may rewrite each of them. `Tags.Apart` is what every call
keeps: the others are listed as before, and the labels and annotations that are
no ownership tags are as before.

What an object tells about an owner also depends on the label and the manager.
Taking an owner out leaves the label if somebody else is listed, and a manager
that is somebody else. Adding one sets the label, which makes everybody who is
listed a referencing owner, and puts itself in the manager's place.

`spared` puts this together for two owners, on metadata of any content.
`isReferencedBy_afterAll` follows an owner through any number of calls of others.
-/

set_option autoImplicit false

namespace SecretSync

namespace Tags

variable {t t' t'' : Tags} {key e : String}

/-- The tags `t'` are as `t` in what is nobody's or belongs to other keys than `key`. -/
structure Apart (key : String) (t t' : Tags) : Prop where
  entries : ∀ e, e ≠ key → (e ∈ t'.references.entries ↔ e ∈ t.references.entries)
  labels : ∀ k, k ≠ linkedLabel → t'.labels.get? k = t.labels.get? k
  annotations : ∀ k, k ≠ referencesAnnotation → k ≠ managerAnnotation →
    t'.annotations.get? k = t.annotations.get? k

namespace Apart

theorem refl (key : String) (t : Tags) : Apart key t t := ⟨fun _ _ => Iff.rfl, by simp, by simp⟩

theorem trans (h : Apart key t t') (h' : Apart key t' t'') : Apart key t t'' where
  entries e he := (h'.entries e he).trans (h.entries e he)
  labels k hk := (h'.labels k hk).trans (h.labels k hk)
  annotations k hk hk' := (h'.annotations k hk hk').trans (h.annotations k hk hk')

theorem addReference (hkey : ReferencedSet.Writable key) (t : Tags) :
    Apart key t (t.addReference key).1 where
  entries e he := by simp [mem_references_addReference hkey, he]
  labels k hk := by simp [addReference_fst, SortedMap.get?_insert, hk]
  annotations k hk _ := by simp [addReference_fst, SortedMap.get?_insert, hk]

theorem setManager (t : Tags) (key : String) : Apart key t (t.setManager key).1 where
  entries e _ := by rw [references_setManager]
  labels k _ := by rw [setManager_fst]
  annotations k _ hk := by simp [setManager_fst, SortedMap.get?_insert, hk]

theorem removeManager (t : Tags) (key : String) : Apart key t (t.removeManager key).1 where
  entries e _ := by rw [references_removeManager]
  labels k _ := by
    unfold Tags.removeManager
    split <;> rfl
  annotations k _ hk := by
    unfold Tags.removeManager
    split <;> simp [SortedMap.get?_erase, hk]

theorem dropReference (t : Tags) (key : String) : Apart key t (t.dropReference key).1 where
  entries e he := by simp [mem_references_dropReference, he]
  labels k hk := by
    rw [dropReference_fst]
    split
    · simp [SortedMap.get?_erase, hk]
    · split <;> rfl
  annotations k hk _ := by
    rw [dropReference_fst]
    split
    · simp [SortedMap.get?_erase, hk]
    · split <;> simp [setReferences, SortedMap.get?_insert, hk]

/-- One case per call; the calls of two steps compose. -/
theorem onTags {c : MarkerCall} (hc : c.Storable) (t : Tags) :
    Apart c.owner.toString t (c.onTags c.owner.toString t).1 := by
  cases c with
  | markReferenced owner => exact addReference hc.writable t
  | markManaged owner => exact (addReference hc.writable t).trans (setManager _ _)
  | unmarkManaged owner => exact removeManager t _
  | unmarkReferenced owner => exact (removeManager t _).trans (dropReference _ _)

end Apart

/-! ### The label and the manager -/

theorem isLinked_removeReference (t : Tags) (key : String) :
    (t.removeReference key).1.isLinked
      = (t.isLinked && !(t.references.remove key).isEmpty) := by
  show ((t.removeManager key).1.dropReference key).1.isLinked = _
  rw [isLinked_dropReference, isLinked_removeManager, references_removeManager]

/-- Somebody else who is listed keeps the label in place. -/
theorem isLinked_removeReference_of_other (he : e ∈ t.references.entries) (hne : e ≠ key) :
    (t.removeReference key).1.isLinked = t.isLinked := by
  have hrest : (t.references.remove key).isEmpty = false := by
    refine Bool.eq_false_iff.2 fun hempty => ?_
    have hkept : e ∈ (t.references.remove key).entries := by simp [ReferencedSet.remove, he, hne]
    rw [List.isEmpty_iff.1 hempty] at hkept
    cases hkept
  rw [isLinked_removeReference, hrest, Bool.not_false, Bool.and_true]

theorem manager_removeReference (t : Tags) (key : String) :
    (t.removeReference key).1.manager = if t.manager = some key then none else t.manager := by
  show ((t.removeManager key).1.dropReference key).1.manager = _
  rw [manager_dropReference, manager_removeManager]

theorem isLinked_addManager (t : Tags) (key : String) : (t.addManager key).1.isLinked = true := by
  show ((t.addReference key).1.setManager key).1.isLinked = true
  rw [isLinked_setManager, isLinked_addReference]

theorem manager_addManager (t : Tags) (key : String) :
    (t.addManager key).1.manager = some key :=
  manager_setManager _ key

end Tags

/-! ### What an object tells -/

namespace Ownership

variable {j : OwnerKey} {m m' : ObjectMeta}

/-- The label matters for an owner only if it is listed. -/
theorem isReferencedBy_of_sameEntry (hfree : ReferencedSet.delimiter ∉ j.toString.toList)
    (hentries : j.toString ∈ referenceEntries m' ↔ j.toString ∈ referenceEntries m)
    (hlinked : j.toString ∈ referenceEntries m →
      (Tags.ofMetadata m').isLinked = (Tags.ofMetadata m).isLinked) :
    isReferencedBy j m' = isReferencedBy j m := by
  rw [isReferencedBy_of_free hfree, isReferencedBy_of_free hfree, Except.ok.injEq,
    Bool.eq_iff_iff, Bool.and_eq_true, Bool.and_eq_true, ReferencedSet.contains_iff,
    ReferencedSet.contains_iff]
  constructor
  · -- Only a listed owner needs the label, and for that one it is the same.
    rintro ⟨hl, hlisted⟩
    exact ⟨hlinked (hentries.1 hlisted) ▸ hl, hentries.1 hlisted⟩
  · rintro ⟨hl, hlisted⟩
    exact ⟨(hlinked hlisted).trans hl, hentries.2 hlisted⟩

theorem isManagedBy_of_sameManager (hfree : ReferencedSet.delimiter ∉ j.toString.toList)
    (hreferenced : isReferencedBy j m' = isReferencedBy j m)
    (hmanager : (Tags.ofMetadata m').manager = some j.toString ↔
      (Tags.ofMetadata m).manager = some j.toString) :
    isManagedBy j m' = isManagedBy j m := by
  rw [isReferencedBy_of_free hfree, isReferencedBy_of_free hfree, Except.ok.injEq] at hreferenced
  rw [isManagedBy_eq_and hfree, isManagedBy_eq_and hfree, hreferenced, Except.ok.injEq]
  congr 1
  rw [Bool.eq_iff_iff, beq_iff_eq, beq_iff_eq, hmanager]

/-- Of an object with the label, whoever is listed is told to reference it. -/
theorem isReferencedBy_of_linked (hfree : ReferencedSet.delimiter ∉ j.toString.toList)
    (hlinked : (Tags.ofMetadata m).isLinked = true) :
    isReferencedBy j m = .ok (decide (j.toString ∈ referenceEntries m)) := by
  rw [isReferencedBy_of_free hfree, hlinked, Bool.true_and, Except.ok.injEq, Bool.eq_iff_iff,
    ReferencedSet.contains_iff, decide_eq_true_iff]
  exact Iff.rfl

end Ownership

/-! ### Calls -/

namespace MarkerCall

open Ownership

variable {c : MarkerCall} {j : OwnerKey} {m : ObjectMeta}

/-- Metadata after a call is as it was, or has the tags that the call makes. -/
theorem after_cases (hc : c.Storable) (m : ObjectMeta) :
    c.after m = m ∨
      Tags.ofMetadata (c.after m) = (c.onTags c.owner.toString (Tags.ofMetadata m)).1 := by
  rcases c.after_eq m with hafter | ⟨marked, hon, hafter⟩
  · exact .inl hafter
  · rw [on_eq_change hc] at hon
    rw [hafter]
    exact .inr (ofMetadata_of_change (settling_onTags hc) hon)

theorem ofMetadata_of_on (hc : c.Storable) {marked : Marked} (h : c.on m = .ok marked) :
    Tags.ofMetadata marked.metadata = (c.onTags c.owner.toString (Tags.ofMetadata m)).1 :=
  ofMetadata_of_change (settling_onTags hc) ((on_eq_change hc m).symm.trans h)

theorem sameObject_after (hc : c.Storable) (m : ObjectMeta) : sameObject m (c.after m) := by
  rcases c.after_eq m with hafter | ⟨marked, hon, hafter⟩ <;> rw [hafter]
  · rfl
  · rw [on_eq_change hc] at hon
    exact sameObject_of_change hon

theorem apart_after (hc : c.Storable) (m : ObjectMeta) :
    Tags.Apart c.owner.toString (Tags.ofMetadata m) (Tags.ofMetadata (c.after m)) := by
  rcases after_cases hc m with hsame | htags
  · rw [hsame]
    exact .refl _ _
  · rw [htags]
    exact .onTags hc _

/-- The calls that add an owner. -/
def Marks : MarkerCall → Prop
  | markReferenced _ | markManaged _ => True
  | unmarkManaged _ | unmarkReferenced _ => False

theorem isLinked_of_marks (hc : c.Storable) (hmarks : c.Marks) {marked : Marked}
    (h : c.on m = .ok marked) : (Tags.ofMetadata marked.metadata).isLinked = true := by
  rw [ofMetadata_of_on hc h]
  cases c with
  | markReferenced owner => exact Tags.isLinked_addReference _ _
  | markManaged owner => exact Tags.isLinked_addManager _ _
  | unmarkManaged owner => exact hmarks.elim
  | unmarkReferenced owner => exact hmarks.elim

/-- For an owner that is listed, the calls of others leave a label that is right, and those that
take an owner out leave any label. -/
theorem isLinked_after (hc : c.Storable) (hne : j.toString ≠ c.owner.toString)
    (hlisted : j.toString ∈ referenceEntries m)
    (h : c.Marks → (Tags.ofMetadata m).isLinked = true) :
    (Tags.ofMetadata (c.after m)).isLinked = (Tags.ofMetadata m).isLinked := by
  rcases after_cases hc m with hsame | htags
  · rw [hsame]
  · rw [htags]
    cases c with
    | markReferenced owner => exact (Tags.isLinked_addReference _ _).trans (h trivial).symm
    | markManaged owner => exact (Tags.isLinked_addManager _ _).trans (h trivial).symm
    | unmarkManaged owner => exact Tags.isLinked_removeManager _ _
    | unmarkReferenced owner => exact Tags.isLinked_removeReference_of_other hlisted hne

/-- Only the call that makes an owner the manager takes the place of another one. -/
theorem manager_after (hc : c.Storable) (hne : j.toString ≠ c.owner.toString)
    (hkeeps : ∀ owner, c ≠ markManaged owner) :
    (Tags.ofMetadata (c.after m)).manager = some j.toString ↔
      (Tags.ofMetadata m).manager = some j.toString := by
  -- The place becomes empty only if the owner itself stood there.
  have hremove : ∀ t : Tags,
      (if t.manager = some c.owner.toString then none else t.manager) = some j.toString ↔
        t.manager = some j.toString := by
    intro t
    split
    · rename_i hmanager
      simp [hmanager, hne.symm]
    · rfl
  rcases after_cases hc m with hsame | htags
  · rw [hsame]
  · rw [htags]
    cases c with
    | markReferenced owner => exact (Tags.manager_addReference _ _).symm ▸ Iff.rfl
    | markManaged owner => exact absurd rfl (hkeeps owner)
    | unmarkManaged owner =>
      show ((Tags.ofMetadata m).removeManager owner.toString).1.manager = _ ↔ _
      rw [Tags.manager_removeManager]
      exact hremove _
    | unmarkReferenced owner =>
      show ((Tags.ofMetadata m).removeReference owner.toString).1.manager = _ ↔ _
      rw [Tags.manager_removeReference]
      exact hremove _

theorem isReferencedBy_after (hc : c.Storable)
    (hfree : ReferencedSet.delimiter ∉ j.toString.toList)
    (hne : j.toString ≠ c.owner.toString)
    (h : c.Marks → j.toString ∈ referenceEntries m → (Tags.ofMetadata m).isLinked = true) :
    isReferencedBy j (c.after m) = isReferencedBy j m :=
  isReferencedBy_of_sameEntry hfree ((apart_after hc m).entries _ hne) fun hlisted =>
    isLinked_after hc hne hlisted fun hmarks => h hmarks hlisted

/-- Adding an owner makes the label right, and then whoever was listed references the object. -/
theorem isReferencedBy_of_marks (hc : c.Storable) (hmarks : c.Marks)
    (hfree : ReferencedSet.delimiter ∉ j.toString.toList)
    (hne : j.toString ≠ c.owner.toString) {marked : Marked} (h : c.on m = .ok marked) :
    isReferencedBy j marked.metadata = .ok (decide (j.toString ∈ referenceEntries m)) := by
  have hentries := (apart_after hc m).entries _ hne
  rw [after_of_ok h] at hentries
  rw [isReferencedBy_of_linked hfree (isLinked_of_marks hc hmarks h), Except.ok.injEq,
    decide_eq_decide]
  exact hentries

/-! ### Runs of others -/

/-- Metadata after calls one after the other. -/
def afterAll (calls : List MarkerCall) (m : ObjectMeta) : ObjectMeta :=
  calls.foldl (fun m c => c.after m) m

/-- A run of others, of any length and with refusals in it, leaves an owner as it found it: listed
or not, and told to reference the object or not. It is asked that the label was right for this owner
before; from then on it is. -/
theorem isReferencedBy_afterAll (hfree : ReferencedSet.delimiter ∉ j.toString.toList)
    {calls : List MarkerCall}
    (hcalls : ∀ c ∈ calls, c.Storable ∧ j.toString ≠ c.owner.toString)
    (hlabel : j.toString ∈ referenceEntries m → (Tags.ofMetadata m).isLinked = true) :
    isReferencedBy j (afterAll calls m) = isReferencedBy j m ∧
      (j.toString ∈ referenceEntries (afterAll calls m) ↔ j.toString ∈ referenceEntries m) := by
  induction calls generalizing m with
  | nil => exact ⟨rfl, Iff.rfl⟩
  | cons c rest ih =>
    obtain ⟨hc, hne⟩ := hcalls c List.mem_cons_self
    have hentries := (apart_after hc m).entries _ hne
    -- The label stays right for the owner, so the rest of the run starts as this one did.
    have hnext : j.toString ∈ referenceEntries (c.after m) →
        (Tags.ofMetadata (c.after m)).isLinked = true := by
      intro hlisted
      have hbefore := hentries.1 hlisted
      exact (isLinked_after hc hne hbefore fun _ => hlabel hbefore).trans (hlabel hbefore)
    obtain ⟨hreferenced, hlisted⟩ :=
      ih (fun c' hc' => hcalls c' (List.mem_cons_of_mem _ hc')) hnext
    exact ⟨hreferenced.trans (isReferencedBy_after hc hfree hne fun _ => hlabel),
      hlisted.trans hentries⟩

/-! ### Two owners -/

/-- What the calls of the owner `k` do to the owner `j` of an object. -/
structure Spares (k j : OwnerKey) (m : ObjectMeta) : Prop where
  /-- Taking an owner out, refused or not, is not noticed by the other. -/
  unmarked : ∀ c ∈ [unmarkReferenced k, unmarkManaged k],
    isReferencedBy j (c.after m) = isReferencedBy j m ∧
      isManagedBy j (c.after m) = isManagedBy j m
  /-- Neither is adding a reference, if the label was right. -/
  markedReferenced : m.labelMap.get? linkedLabel = some linkedValue →
    isReferencedBy j ((markReferenced k).after m) = isReferencedBy j m ∧
      isManagedBy j ((markReferenced k).after m) = isManagedBy j m
  /-- A new manager leaves the references alone then. -/
  markedManaged : m.labelMap.get? linkedLabel = some linkedValue →
    isReferencedBy j ((markManaged k).after m) = isReferencedBy j m
  /-- With the label that is set, the other references the object if it was listed. -/
  referenced : ∀ c ∈ [markReferenced k, markManaged k], ∀ marked, c.on m = .ok marked →
    isReferencedBy j marked.metadata = .ok (decide (j.toString ∈ referenceEntries m))
  /-- There is one manager, and it is the new one. -/
  replaced : ∀ marked, (markManaged k).on m = .ok marked →
    isManagedBy j marked.metadata = .ok false
  /-- An owner that was taken out is gone. -/
  gone : ∀ marked, (unmarkReferenced k).on m = .ok marked →
    isReferencedBy k marked.metadata = .ok false ∧ isManagedBy k marked.metadata = .ok false
  /-- Nobody else is added to those listed, or taken out. -/
  entries : ∀ c : MarkerCall, c.owner = k → ∀ e, e ≠ k.toString →
    (e ∈ referenceEntries (c.after m) ↔ e ∈ referenceEntries m)
  /-- No other field, label or annotation changes. -/
  object : ∀ c : MarkerCall, c.owner = k → sameObject m (c.after m)
  labels : ∀ c : MarkerCall, c.owner = k → ∀ key, key ≠ linkedLabel →
    (c.after m).labelMap.get? key = m.labelMap.get? key
  annotations : ∀ c : MarkerCall, c.owner = k → ∀ key, key ≠ referencesAnnotation →
    key ≠ managerAnnotation → (c.after m).annotationMap.get? key = m.annotationMap.get? key

/-- On metadata of any content, the calls of an owner whose key can be stored and read back spare
every other owner, down to what is written nowhere but in the shared tags. -/
theorem spared {k j : OwnerKey} (hk : ReferencedSet.delimiter ∉ k.toString.toList)
    (htrim : k.Trimmed) (hj : ReferencedSet.delimiter ∉ j.toString.toList)
    (hne : j.toString ≠ k.toString) (m : ObjectMeta) : Spares k j m := by
  have hstorable : ∀ c : MarkerCall, c.owner = k → c.Storable := by
    rintro c rfl
    exact ⟨hk, htrim⟩
  have hlinked : m.labelMap.get? linkedLabel = some linkedValue →
      (Tags.ofMetadata m).isLinked = true := beq_iff_eq.2
  have hmarkReferenced := hstorable (markReferenced k) rfl
  have hmarkManaged := hstorable (markManaged k) rfl
  have hunmarkReferenced := hstorable (unmarkReferenced k) rfl
  refine
    { unmarked := ?_, markedReferenced := ?_, markedManaged := ?_, referenced := ?_,
      replaced := ?_, gone := ?_, entries := ?_, object := ?_, labels := ?_, annotations := ?_ }
  · -- Neither of the two sets the label or names a manager, and that is all that is used.
    intro c hmem
    have hkind : c.owner = k ∧ ¬ c.Marks ∧ ∀ owner, c ≠ markManaged owner := by
      simp only [List.mem_cons, List.not_mem_nil, or_false] at hmem
      rcases hmem with rfl | rfl <;> exact ⟨rfl, id, nofun⟩
    obtain ⟨howner, hunmarks, hkeeps⟩ := hkind
    have hc := hstorable c howner
    rw [← howner] at hne
    have hreferenced : isReferencedBy j (c.after m) = isReferencedBy j m :=
      isReferencedBy_after hc hj hne fun hmarks => (hunmarks hmarks).elim
    exact ⟨hreferenced, isManagedBy_of_sameManager hj hreferenced (manager_after hc hne hkeeps)⟩
  · intro hlabel
    have hreferenced := isReferencedBy_after hmarkReferenced hj hne fun _ _ => hlinked hlabel
    exact ⟨hreferenced,
      isManagedBy_of_sameManager hj hreferenced (manager_after hmarkReferenced hne nofun)⟩
  · exact fun hlabel => isReferencedBy_after hmarkManaged hj hne fun _ _ => hlinked hlabel
  · intro c hmem marked hon
    have hkind : c.owner = k ∧ c.Marks := by
      simp only [List.mem_cons, List.not_mem_nil, or_false] at hmem
      rcases hmem with rfl | rfl <;> exact ⟨rfl, trivial⟩
    obtain ⟨howner, hmarks⟩ := hkind
    exact isReferencedBy_of_marks (hstorable c howner) hmarks hj (howner ▸ hne) hon
  · intro marked hon
    have hmanager : (Tags.ofMetadata marked.metadata).manager = some k.toString := by
      rw [ofMetadata_of_on hmarkManaged hon]
      exact Tags.manager_addManager _ _
    rw [isManagedBy_eq_and hj, hmanager, Except.ok.injEq, Bool.and_eq_false_iff]
    exact .inr (beq_false_of_ne fun h => hne (Option.some.inj h).symm)
  · -- Without an entry of its own an owner neither references nor manages, whatever the label and
    -- the manager say.
    intro marked hon
    have hgone : (Tags.ofMetadata marked.metadata).references.contains k.toString = false := by
      rw [ofMetadata_of_on hunmarkReferenced hon]
      refine Bool.eq_false_iff.2 fun hcontains => ?_
      have hlisted := (ReferencedSet.contains_iff _ _).1 hcontains
      exact ((Tags.mem_references_removeReference _ _ _).1 hlisted).2 rfl
    rw [isReferencedBy_of_free hk, isManagedBy_eq_and hk, hgone, Bool.and_false, Bool.false_and]
    exact ⟨rfl, rfl⟩
  · rintro c rfl e he
    exact (apart_after (hstorable c rfl) m).entries e he
  · exact fun c howner => sameObject_after (hstorable c howner) m
  · rintro c rfl key hkey
    exact (apart_after (hstorable c rfl) m).labels key hkey
  · rintro c rfl key hreferences hmanager
    exact (apart_after (hstorable c rfl) m).annotations key hreferences hmanager

/-- Of two owners the second manages the object. It still does when the first is taken out, and no
longer when the first takes over. -/
theorem spared_shared :
    let k : OwnerKey := ⟨"team-b", "db"⟩
    let j : OwnerKey := ⟨"team-a", "creds"⟩
    Spares k j sharedByHandMarked ∧ isManagedBy j sharedByHandMarked = .ok true ∧
      isManagedBy j ((unmarkReferenced k).after sharedByHandMarked) = .ok true ∧
      isReferencedBy j ((markManaged k).after sharedByHandMarked) = .ok true := by
  intro k j
  have hspared : Spares k j sharedByHandMarked :=
    spared (by decide) (by decide) (by decide) (by decide) sharedByHandMarked
  have hreferenced : isReferencedBy ⟨"team-a", "creds"⟩ sharedByHandMarked = .ok true := rfl
  have hmanaged := (isManagedBy_iff j sharedByHandMarked).2 ⟨hreferenced, rfl⟩
  refine ⟨hspared, hmanaged, ?_, ?_⟩
  · exact (hspared.unmarked _ List.mem_cons_self).2.trans hmanaged
  · exact (hspared.markedManaged rfl).trans hreferenced

end MarkerCall

end SecretSync
