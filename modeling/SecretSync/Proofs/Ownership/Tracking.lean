import Mathlib.Tactic.SplitIfs
import SecretSync.Proofs.Ownership.Marking

/-!
# `SecretSync.Proofs.Ownership.Tracking`: which owners can be found again

Marking refuses a key with the delimiter of the references in it and accepts
every other one. Reading the record back asks for more. The references are
trimmed when they are read, so a key with blanks around it comes back as another
one (`OwnerKey.Trimmed`). A key is taken apart at its first slash, so one with a
slash in its namespace comes back as another one too.

`tracking_of_markManaged` says, for every key that marking accepts and every
object, which of the questions about the owner have the answer that is expected
of them. `untracked_owner` is a key for which hardly any has.
-/

set_option autoImplicit false

namespace SecretSync

/-! ### Keys -/

namespace OwnerKey

/-- A key whose written form has no blanks around it. -/
def Trimmed (k : OwnerKey) : Prop := Text.trim k.toString = k.toString

instance (k : OwnerKey) : Decidable k.Trimmed :=
  inferInstanceAs (Decidable (Text.trim k.toString = k.toString))

/-- A text is read as the key that it is written from, if a slash in the namespace does not end it
too early. -/
theorem parse?_eq_some_iff {text : String} {k : OwnerKey} :
    parse? text = some k ↔ text = k.toString ∧ separator ∉ k.ns.toList := by
  constructor
  · intro h
    refine ⟨(toString_parse? h).symm, ?_⟩
    unfold parse? Text.splitOnce at h
    simp only [Option.map_map, Option.map_eq_some_iff, Function.comp] at h
    obtain ⟨p, hp, rfl⟩ := h
    rw [String.toList_ofList]
    exact (Text.splitFirst_eq_some_iff.1 hp).2
  · rintro ⟨rfl, hns⟩
    exact parse?_toString hns

/-- Keys without further slashes are known by their written form. -/
theorem toString_injective {j k : OwnerKey} (hns : separator ∉ k.ns.toList)
    (hname : separator ∉ k.name.toList) (h : j.toString = k.toString) : j = k := by
  have hcount := congrArg (fun s : String => s.toList.count separator) h
  simp only [toList_toString, List.count_append, List.count_cons_self,
    List.count_eq_zero_of_not_mem hns, List.count_eq_zero_of_not_mem hname] at hcount
  have hns' : separator ∉ j.ns.toList := List.count_eq_zero.1 (by omega)
  exact Option.some.inj ((parse?_toString hns').symm.trans (h ▸ parse?_toString hns))

end OwnerKey

/-! ### Tags -/

theorem SortedMap.erase_of_not_contains {α : Type} {m : SortedMap α} {key : String}
    (h : m.contains key = false) : m.erase key = m := by
  refine SortedMap.ext_get? fun k => ?_
  rw [SortedMap.get?_erase]
  split
  · rename_i hk
    have hnone : m.get? key = none := by simpa [contains] using h
    rw [hk, hnone]
  · rfl

namespace Tags

variable {t : Tags} {key : String}

/-- Taking an owner out takes both tags off if nobody else is listed, and else writes the others
down, if the owner was listed. -/
theorem dropReference_fst (t : Tags) (key : String) :
    (t.dropReference key).1
      = if (t.references.remove key).isEmpty then
          ⟨t.labels.erase linkedLabel, t.annotations.erase referencesAnnotation⟩
        else if t.references.contains key then t.setReferences (t.references.remove key)
        else t := by
  simp only [dropReference, apply_ite Prod.fst]

/-- Once an owner was taken out, the others are listed. -/
theorem mem_references_dropReference (t : Tags) (key e : String) :
    e ∈ (t.dropReference key).1.references.entries ↔ e ∈ t.references.entries ∧ e ≠ key := by
  have hrest : e ∈ (t.references.remove key).entries ↔ e ∈ t.references.entries ∧ e ≠ key := by
    unfold ReferencedSet.remove
    rw [List.mem_filter, bne_iff_ne]
  rw [dropReference_fst]
  split_ifs with hempty hlisted
  · -- Nobody else was listed, and the annotation is gone.
    have hnone : (⟨t.labels.erase linkedLabel, t.annotations.erase referencesAnnotation⟩ :
        Tags).references = .empty := by
      unfold references
      rw [SortedMap.get?_erase, if_pos rfl]
    rw [hnone, ← hrest, List.isEmpty_iff.1 hempty]
    exact Iff.rfl
  · have hwritten : (t.setReferences (t.references.remove key)).references
        = ReferencedSet.parse (t.references.remove key).toString := by
      unfold references setReferences
      rw [SortedMap.get?_insert, if_pos rfl]
    rw [hwritten, ReferencedSet.mem_parse, references_eq, ReferencedSet.mem_listed_remove,
      ReferencedSet.mem_parse]
  · refine (and_iff_left_of_imp fun he => ?_).symm
    rintro rfl
    exact hlisted ((ReferencedSet.contains_iff _ _).2 he)

/-- The manager is no longer the one that was taken out. -/
theorem references_removeManager (t : Tags) (key : String) :
    (t.removeManager key).1.references = t.references := by
  unfold removeManager
  split
  · unfold references
    rw [SortedMap.get?_erase, if_neg (by decide)]
  · rfl

/-- An owner that is taken out of the references is the only one that goes. -/
theorem mem_references_removeReference (t : Tags) (key e : String) :
    e ∈ (t.removeReference key).1.references.entries ↔ e ∈ t.references.entries ∧ e ≠ key := by
  show e ∈ ((t.removeManager key).1.dropReference key).1.references.entries ↔ _
  rw [mem_references_dropReference, references_removeManager]

theorem dropReference_of_unchanged (h : (t.dropReference key).2 = false) :
    (t.dropReference key).1 = t := by
  unfold dropReference at h ⊢
  simp only at h ⊢
  split_ifs at h ⊢
  · -- Neither tag was there, so there is nothing to take off.
    obtain ⟨hreferences, hlabel⟩ := Bool.or_eq_false_iff.1 h
    show (⟨t.labels.erase linkedLabel, t.annotations.erase referencesAnnotation⟩ : Tags) = t
    rw [SortedMap.erase_of_not_contains hreferences, SortedMap.erase_of_not_contains hlabel]
  · rfl

theorem removeReference_of_unchanged (h : (t.removeReference key).2 = false) :
    (t.removeReference key).1 = t := by
  obtain ⟨hmanager, hdrop⟩ : (t.removeManager key).2 = false ∧
      ((t.removeManager key).1.dropReference key).2 = false := Bool.or_eq_false_iff.1 h
  have hsame : (t.removeManager key).1 = t := by
    unfold removeManager at hmanager ⊢
    split_ifs at hmanager ⊢
    rfl
  rw [hsame] at hdrop
  show ((t.removeManager key).1.dropReference key).1 = t
  rw [hsame, dropReference_of_unchanged hdrop]

end Tags

namespace Ownership

variable {m : ObjectMeta} {marked : Marked} {owner : OwnerKey}

theorem mem_referenceEntries (m : ObjectMeta) (e : String) :
    e ∈ referenceEntries m ↔ e ∈ ReferencedSet.listed (Tags.ofMetadata m).listing := by
  unfold referenceEntries
  rw [Tags.references_eq, ReferencedSet.mem_parse]

/-- An owner is found if it is listed and its key is read back. -/
theorem mem_owners_iff (m : ObjectMeta) (k : OwnerKey) :
    k ∈ owners m ↔ k.toString ∈ referenceEntries m ∧ OwnerKey.separator ∉ k.ns.toList := by
  unfold owners
  rw [List.mem_filterMap]
  constructor
  · rintro ⟨e, he, hparse⟩
    obtain ⟨rfl, hns⟩ := OwnerKey.parse?_eq_some_iff.1 hparse
    exact ⟨he, hns⟩
  · rintro ⟨he, hns⟩
    exact ⟨_, he, OwnerKey.parse?_eq_some_iff.2 ⟨rfl, hns⟩⟩

/-- The tags change unless the owner is found to manage the object. -/
theorem addManager_unchanged_iff (hfree : ReferencedSet.delimiter ∉ owner.toString.toList)
    (m : ObjectMeta) :
    ((Tags.ofMetadata m).addManager owner.toString).2 = false ↔ isManagedBy owner m = .ok true := by
  rw [isManagedBy_eq_and hfree, Except.ok.injEq, Bool.and_eq_true, Bool.and_eq_true, beq_iff_eq,
    ← Tags.addManager_snd_eq_false_iff]

/-- Marking again changes nothing exactly if the owner is found to manage the object. -/
theorem markManaged_eq_unchanged_iff (hfree : ReferencedSet.delimiter ∉ owner.toString.toList)
    (m : ObjectMeta) :
    markManaged owner m = .ok ⟨false, m⟩ ↔ isManagedBy owner m = .ok true := by
  rw [markManaged_of_free hfree, ← addManager_unchanged_iff hfree]
  constructor
  · intro h
    rcases change_cases h with ⟨hsame, -⟩ | ⟨-, hmarked⟩
    · exact hsame
    · cases congrArg Marked.changed hmarked
  · intro hsame
    simp only [change, hsame]
    rfl

/-- Taking an owner out of the references leaves everybody else there. -/
theorem mem_referenceEntries_of_unmarkReferenced (h : unmarkReferenced owner m = .ok marked)
    (e : String) :
    e ∈ referenceEntries marked.metadata ↔ e ∈ referenceEntries m ∧ e ≠ owner.toString := by
  have hchange := (change_of_stored h).2
  have htags : Tags.ofMetadata marked.metadata
      = ((Tags.ofMetadata m).removeReference owner.toString).1 := by
    rcases change_cases hchange with ⟨hsame, rfl⟩ | ⟨-, rfl⟩
    · exact (Tags.removeReference_of_unchanged hsame).symm
    · rfl
  unfold referenceEntries
  rw [htags, Tags.mem_references_removeReference]

/-- A marked object is referenced by the owner as its key reads when trimmed. -/
theorem mem_referenceEntries_of_markManaged (h : markManaged owner m = .ok marked) (e : String) :
    e ∈ referenceEntries marked.metadata ↔
      e ∈ referenceEntries m ∨ e = Text.trim owner.toString := by
  obtain ⟨-, htags⟩ := Prod.mk.inj (ownershipTags_of_markManaged h)
  obtain ⟨-, hreferences⟩ := Prod.mk.inj htags
  have hlisting : (Tags.ofMetadata marked.metadata).listing
      = withReference owner.toString (Tags.ofMetadata m).listing := by
    show (marked.metadata.annotationMap.get? referencesAnnotation).getD "" = _
    rw [hreferences]
    rfl
  rw [mem_referenceEntries, mem_referenceEntries, hlisting,
    mem_listed_withReference (change_of_markManaged h).1 (OwnerKey.trim_toString_ne_empty owner)]

/-- So the owner itself is listed if its key is trimmed, and only then. -/
theorem toString_mem_referenceEntries_iff (h : markManaged owner m = .ok marked) :
    owner.toString ∈ referenceEntries marked.metadata ↔ owner.Trimmed := by
  rw [mem_referenceEntries_of_markManaged h]
  constructor
  · rintro (hlisted | htrim)
    · exact ReferencedSet.trim_of_mem_listed ((mem_referenceEntries m _).1 hlisted)
    · exact htrim.symm
  · exact fun htrim => .inr htrim.symm

/-- Which owners can be found again after marking. Every clause is about an arbitrary key that
marking accepts: if it is trimmed it is found, manages the object and is not marked twice, and
nobody manages the object whose key is written differently. It is among the owners if it has no
slash in its namespace too, and the only manager if it has no further slash at all. Unmarking always
makes the object forget it and nobody else. -/
theorem tracking_of_markManaged (h : markManaged owner m = .ok marked) :
    isReferencedBy owner marked.metadata = .ok (decide owner.Trimmed) ∧
    isManagedBy owner marked.metadata = .ok (decide owner.Trimmed) ∧
    (owner ∈ owners marked.metadata ↔
      owner.Trimmed ∧ OwnerKey.separator ∉ owner.ns.toList) ∧
    (markManaged owner marked.metadata = .ok ⟨false, marked.metadata⟩ ↔ owner.Trimmed) ∧
    (∀ j, isManagedBy j marked.metadata = .ok true ↔
      j.toString = owner.toString ∧ owner.Trimmed) ∧
    (OwnerKey.separator ∉ owner.ns.toList → OwnerKey.separator ∉ owner.name.toList →
      ∀ j, isManagedBy j marked.metadata = .ok true → j = owner) ∧
    ∀ unmarked, unmarkReferenced owner marked.metadata = .ok unmarked →
      isReferencedBy owner unmarked.metadata = .ok false ∧
      isManagedBy owner unmarked.metadata = .ok false ∧
      owner ∉ owners unmarked.metadata ∧
      ∀ e, e ∈ referenceEntries unmarked.metadata ↔
        e ∈ referenceEntries marked.metadata ∧ e ≠ owner.toString := by
  have hfree := (change_of_markManaged h).1
  have hlisted := toString_mem_referenceEntries_iff h
  obtain ⟨hlabel, htags⟩ := Prod.mk.inj (ownershipTags_of_markManaged h)
  obtain ⟨hmanager, -⟩ := Prod.mk.inj htags
  have hlinked : (Tags.ofMetadata marked.metadata).isLinked = true := beq_iff_eq.2 hlabel
  have hreferenced : isReferencedBy owner marked.metadata = .ok (decide owner.Trimmed) := by
    rw [isReferencedBy_of_free hfree, hlinked, Bool.true_and, Except.ok.injEq, Bool.eq_iff_iff,
      ReferencedSet.contains_iff, decide_eq_true_iff]
    exact hlisted
  have hmanagers : ∀ j, isManagedBy j marked.metadata = .ok true ↔
      j.toString = owner.toString ∧ owner.Trimmed := by
    intro j
    have hsame : (Tags.ofMetadata marked.metadata).manager = some j.toString ↔
        j.toString = owner.toString := by
      rw [show (Tags.ofMetadata marked.metadata).manager = some owner.toString from hmanager,
        Option.some.injEq, eq_comm]
    -- Only the text of a key is compared, so a key with the same text gets the owner's answer.
    rw [isManagedBy_iff, hsame, and_comm]
    refine and_congr_right fun hj => ?_
    have hanswer : isReferencedBy j marked.metadata = .ok (decide owner.Trimmed) := by
      rw [isReferencedBy_of_free (hj ▸ hfree), hj, ← isReferencedBy_of_free hfree, hreferenced]
    rw [hanswer, Except.ok.injEq, decide_eq_true_iff]
  have hmanaged : isManagedBy owner marked.metadata = .ok (decide owner.Trimmed) := by
    have howner := hmanagers owner
    rw [isManagedBy_eq_and hfree, Except.ok.injEq] at howner ⊢
    rw [Bool.eq_iff_iff, howner, decide_eq_true_iff]
    exact and_iff_right rfl
  refine ⟨hreferenced, hmanaged, ?_, ?_, hmanagers, ?_, ?_⟩
  · rw [mem_owners_iff, hlisted]
  · rw [markManaged_eq_unchanged_iff hfree, hmanagers]
    exact and_iff_right rfl
  · exact fun hns hname j hj => OwnerKey.toString_injective hns hname ((hmanagers j).1 hj).1
  · intro unmarked hunmark
    have hentries := mem_referenceEntries_of_unmarkReferenced hunmark
    have hgone : owner.toString ∉ referenceEntries unmarked.metadata := fun hmem =>
      ((hentries _).1 hmem).2 rfl
    have hcontains : (Tags.ofMetadata unmarked.metadata).references.contains owner.toString
        = false := Bool.eq_false_iff.2 fun hc => hgone ((ReferencedSet.contains_iff _ _).1 hc)
    refine ⟨?_, ?_, fun howner => hgone ((mem_owners_iff _ _).1 howner).1, hentries⟩
    · rw [isReferencedBy_of_free hfree, hcontains, Bool.and_false]
    · rw [isManagedBy_eq_and hfree, hcontains, Bool.and_false, Bool.false_and]

/-- An object that somebody else references, with an annotation that was written by hand. -/
def sharedByHand : ObjectMeta where
  labels := some (.ofList [(linkedLabel, linkedValue)])
  annotations := some (.ofList [( referencesAnnotation, " team-b/db,,nobody,")])

/-- The same object after marking. -/
def sharedByHandMarked : ObjectMeta where
  labels := some (.ofList [(linkedLabel, linkedValue)])
  annotations := some (.ofList [( referencesAnnotation, "team-b/db,nobody,team-a/creds"),
    ( managerAnnotation, "team-a/creds")])

theorem tracking_of_markManaged_shared :
    markManaged ⟨"team-a", "creds"⟩ sharedByHand = .ok ⟨true, sharedByHandMarked⟩ ∧
    isManagedBy ⟨"team-a", "creds"⟩ sharedByHandMarked = .ok true ∧
    ⟨"team-a", "creds"⟩ ∈ owners sharedByHandMarked := by
  have hmark : markManaged ⟨"team-a", "creds"⟩ sharedByHand = .ok ⟨true, sharedByHandMarked⟩ := rfl
  obtain ⟨-, hmanaged, howners, -⟩ := tracking_of_markManaged hmark
  exact ⟨hmark, hmanaged, howners.2 (by decide)⟩

/-- Two keys that marking accepts. The first has a blank at its end, and the object does not know it
afterwards; it is marked once more each time. The second has a slash in its namespace, and the
object is found to be managed by another owner. -/
theorem untracked_owner :
    (∃ m, markManaged ⟨"team-a", "creds "⟩ {} = .ok ⟨true, m⟩ ∧
      isReferencedBy ⟨"team-a", "creds "⟩ m = .ok false ∧
      isManagedBy ⟨"team-a", "creds "⟩ m = .ok false ∧
      ⟨"team-a", "creds "⟩ ∉ owners m ∧
      ∃ m', markManaged ⟨"team-a", "creds "⟩ m = .ok ⟨true, m'⟩ ∧ m' ≠ m) ∧
    ∃ m, markManaged ⟨"team/a", "creds"⟩ {} = .ok ⟨true, m⟩ ∧
      ⟨"team/a", "creds"⟩ ∉ owners m ∧ isManagedBy ⟨"team", "a/creds"⟩ m = .ok true := by
  refine ⟨⟨_, rfl, rfl, rfl, by decide, _, rfl, by decide⟩, _, rfl, by decide, rfl⟩

end Ownership

end SecretSync
