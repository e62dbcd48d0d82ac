import SecretSync.Proofs.Ownership.Recording
import SecretSync.Proofs.Ownership.Tracking

/-!
# `SecretSync.Proofs.Ownership.Settling`: calls that have nothing left to do

A marker call reports whether it changed anything. `on_settles` says that the
report is exact, on metadata of any content: unchanged means the same metadata,
both maps present or absent as they were, and changed means other labels or
other annotations. And the same call made once more reports that nothing
changed.

The two are one argument. A change of tags that has nothing left to do on what
it made (`Tags.Settling`) cannot report a change of tags that it gives back as
they are: on those it has nothing left to do either (`Settling.changed`). So
what is to be shown of each operation is that it reaches its own end in one
step, whatever stood in the tags.

For the operations that add an owner this needs a key that reads back as it is
written. From the annotation `k,k ` the entry `k` is read. Adding the key `k `,
with a blank at its end, writes the same text again, and reports a change.
-/

set_option autoImplicit false

namespace SecretSync

/-! ### What the operations leave in the tags -/

namespace Tags

variable {t : Tags} {key : String}

/-! #### Adding -/

theorem isLinked_addReference (t : Tags) (key : String) :
    (t.addReference key).1.isLinked = true := by
  rw [addReference_fst]
  unfold isLinked
  rw [SortedMap.get?_insert, if_pos rfl]
  exact beq_self_eq_true _

/-- The new references are the old ones and the owner. -/
theorem mem_references_addReference (hkey : ReferencedSet.Writable key) (t : Tags) (e : String) :
    e ∈ (t.addReference key).1.references.entries ↔ e ∈ t.references.entries ∨ e = key := by
  have hlisting : (t.addReference key).1.listing = withReference key t.listing := by
    rw [addReference_fst]
    unfold listing
    rw [SortedMap.get?_insert, if_pos rfl]
    rfl
  have htrim : Text.trim key ≠ "" := hkey.trimmed.symm ▸ hkey.nonempty
  rw [references_eq, references_eq, ReferencedSet.mem_parse, ReferencedSet.mem_parse, hlisting,
    mem_listed_withReference hkey.free htrim, hkey.trimmed]

theorem manager_addReference (t : Tags) (key : String) :
    (t.addReference key).1.manager = t.manager := by
  rw [addReference_fst]
  unfold manager
  rw [SortedMap.get?_insert, if_neg (by decide)]

theorem isLinked_setManager (t : Tags) (key : String) :
    (t.setManager key).1.isLinked = t.isLinked := by
  rw [setManager_fst]
  rfl

theorem references_setManager (t : Tags) (key : String) :
    (t.setManager key).1.references = t.references := by
  rw [setManager_fst]
  unfold references
  rw [SortedMap.get?_insert, if_neg (by decide)]

theorem manager_setManager (t : Tags) (key : String) :
    (t.setManager key).1.manager = some key := by
  rw [setManager_fst]
  unfold manager
  rw [SortedMap.get?_insert, if_pos rfl]

/-! #### Taking away -/

theorem isLinked_removeManager (t : Tags) (key : String) :
    (t.removeManager key).1.isLinked = t.isLinked := by
  unfold removeManager
  split <;> rfl

theorem manager_removeManager (t : Tags) (key : String) :
    (t.removeManager key).1.manager = if t.manager = some key then none else t.manager := by
  unfold removeManager
  split
  · unfold manager
    rw [SortedMap.get?_erase, if_pos rfl]
  · rfl

/-- The label goes with the last of the other owners. -/
theorem isLinked_dropReference (t : Tags) (key : String) :
    (t.dropReference key).1.isLinked
      = (t.isLinked && !(t.references.remove key).isEmpty) := by
  rw [dropReference_fst]
  split
  · rename_i hempty
    rw [hempty, Bool.not_true, Bool.and_false]
    unfold isLinked
    rw [SortedMap.get?_erase, if_pos rfl]
    rfl
  · rename_i hrest
    rw [Bool.eq_false_iff.2 hrest, Bool.not_false, Bool.and_true]
    split <;> rfl

theorem manager_dropReference (t : Tags) (key : String) :
    (t.dropReference key).1.manager = t.manager := by
  rw [dropReference_fst]
  unfold manager
  split
  · rw [SortedMap.get?_erase, if_neg (by decide)]
  · split
    · show (t.annotations.insert referencesAnnotation _).get? managerAnnotation = _
      rw [SortedMap.get?_insert, if_neg (by decide)]
    · rfl

/-! ### Reports of a change -/

theorem removeManager_snd_eq_false_iff :
    (t.removeManager key).2 = false ↔ t.manager ≠ some key := by
  unfold removeManager
  split <;> simp_all

theorem removeManager_of_unchanged (h : (t.removeManager key).2 = false) :
    (t.removeManager key).1 = t := by
  unfold removeManager
  rw [if_neg (removeManager_snd_eq_false_iff.1 h)]

/-- Taking an owner out changes nothing if it is not listed, and if there is no tag to take off
either in case nobody is listed. -/
theorem dropReference_snd_eq_false_iff :
    (t.dropReference key).2 = false ↔ key ∉ t.references.entries ∧
      (t.references.entries = [] →
        t.annotations.contains referencesAnnotation = false ∧
          t.labels.contains linkedLabel = false) := by
  by_cases hlisted : key ∈ t.references.entries
  · -- Whether anybody else is listed or not, a listed owner is a change: with it goes an entry of
    -- the annotation, or the whole annotation.
    refine iff_of_false ?_ fun h => h.1 hlisted
    have hpresent : t.annotations.contains referencesAnnotation = true := by
      rw [references_eq] at hlisted
      unfold SortedMap.contains
      rw [get?_of_listed t key ((ReferencedSet.contains_iff _ _).2 hlisted)]
      rfl
    have hcontains := (ReferencedSet.contains_iff t.references key).2 hlisted
    unfold dropReference
    simp only [hcontains, hpresent, if_true, Bool.true_or]
    split <;> exact nofun
  · have hrest : t.references.remove key = t.references := by
      unfold ReferencedSet.remove
      rw [List.filter_eq_self.2]
      intro e he
      exact bne_iff_ne.2 fun h => hlisted (h ▸ he)
    have hcontains : t.references.contains key = false :=
      Bool.eq_false_iff.2 fun h => hlisted ((ReferencedSet.contains_iff _ _).1 h)
    rw [and_iff_right hlisted]
    unfold dropReference
    rw [hrest, hcontains]
    by_cases hnone : t.references.entries = []
    · have hempty : t.references.isEmpty = true := List.isEmpty_iff.2 hnone
      simp [hempty, hnone]
    · have hsome : t.references.isEmpty = false :=
        Bool.eq_false_iff.2 fun h => hnone (List.isEmpty_iff.1 h)
      simp [hsome, hnone]

/-- What is left without references has neither of the two tags. -/
theorem untagged_of_dropReference (h : (t.dropReference key).1.references.entries = []) :
    (t.dropReference key).1.annotations.contains referencesAnnotation = false ∧
      (t.dropReference key).1.labels.contains linkedLabel = false := by
  -- Whoever was left over would be listed now, so nobody was, and then the tags went.
  have hrest : (t.references.remove key).isEmpty = true := by
    refine List.isEmpty_iff.2 (List.eq_nil_iff_forall_not_mem.2 fun e he => ?_)
    have hkept : e ∈ (t.dropReference key).1.references.entries := by
      refine (mem_references_dropReference t key e).2 ?_
      simpa [ReferencedSet.remove] using he
    rw [h] at hkept
    cases hkept
  rw [dropReference_fst, if_pos hrest]
  unfold SortedMap.contains
  rw [SortedMap.get?_erase, SortedMap.get?_erase, if_pos rfl, if_pos rfl]
  exact ⟨rfl, rfl⟩

theorem removeReference_snd_eq_false_iff :
    (t.removeReference key).2 = false ↔ t.manager ≠ some key ∧ (t.dropReference key).2 = false := by
  show ((t.removeManager key).2 || ((t.removeManager key).1.dropReference key).2) = false ↔ _
  rw [Bool.or_eq_false_iff, ← removeManager_snd_eq_false_iff]
  -- The second step looks at what the first has left, which is what was there.
  refine and_congr_right fun hsame => ?_
  rw [removeManager_of_unchanged hsame]

/-! ### Reaching the end in one step -/

/-- A change that reports no change only of tags that it leaves alone, and that has nothing left to
do on what it made. -/
structure Settling (f : Tags → Tags × Bool) : Prop where
  unchanged : ∀ t, (f t).2 = false → (f t).1 = t
  settled : ∀ t, (f (f t).1).2 = false

/-- A reported change is one: on its own tags the operation would have had nothing left to do. -/
theorem Settling.changed {f : Tags → Tags × Bool} (hf : Settling f) (h : (f t).2 = true) :
    (f t).1 ≠ t := by
  intro hsame
  have hagain := hf.settled t
  rw [hsame, h] at hagain
  cases hagain

theorem settling_addReference (hkey : ReferencedSet.Writable key) :
    Settling (·.addReference key) where
  unchanged _ h := addReference_of_unchanged h
  settled t := by
    refine addReference_snd_eq_false_iff.2 ⟨isLinked_addReference t key, ?_⟩
    exact (ReferencedSet.contains_iff _ _).2 ((mem_references_addReference hkey t key).2 (.inr rfl))

theorem settling_addManager (hkey : ReferencedSet.Writable key) : Settling (·.addManager key) where
  unchanged _ h := addManager_of_unchanged h
  settled t := by
    -- Setting the manager comes second and leaves the label and the references alone.
    show (((t.addReference key).1.setManager key).1.addManager key).2 = false
    rw [addManager_snd_eq_false_iff, isLinked_setManager, references_setManager]
    exact ⟨addReference_snd_eq_false_iff.1 ((settling_addReference hkey).settled t),
      manager_setManager _ key⟩

theorem settling_removeManager (key : String) : Settling (·.removeManager key) where
  unchanged _ h := removeManager_of_unchanged h
  settled t := by
    rw [removeManager_snd_eq_false_iff, manager_removeManager]
    split
    · exact nofun
    · assumption

theorem settling_removeReference (key : String) : Settling (·.removeReference key) where
  unchanged _ h := removeReference_of_unchanged h
  settled t := by
    show (((t.removeManager key).1.dropReference key).1.removeReference key).2 = false
    rw [removeReference_snd_eq_false_iff, manager_dropReference, dropReference_snd_eq_false_iff]
    refine ⟨?_, ?_, untagged_of_dropReference⟩
    · exact removeManager_snd_eq_false_iff.1 ((settling_removeManager key).settled t)
    · exact fun h => ((mem_references_dropReference _ key key).1 h).2 rfl

end Tags

/-! ### Calls -/

namespace Ownership

variable {f : Tags → Tags × Bool} {m : ObjectMeta} {marked : Marked}

/-- Changed metadata carries the new tags, changed or not. -/
theorem ofMetadata_of_change (hf : Tags.Settling f) (h : change f m = .ok marked) :
    Tags.ofMetadata marked.metadata = (f (Tags.ofMetadata m)).1 := by
  rcases change_cases h with ⟨hsame, rfl⟩ | ⟨-, rfl⟩
  · -- Nothing was written, because the new tags are the old ones.
    exact (hf.unchanged _ hsame).symm
  · rfl

/-- A change that reports one has made one. -/
theorem ofMetadata_ne_of_change (hf : Tags.Settling f) (h : change f m = .ok marked)
    (hchanged : marked.changed = true) : Tags.ofMetadata marked.metadata ≠ Tags.ofMetadata m := by
  rw [ofMetadata_of_change hf h]
  rcases change_cases h with ⟨-, rfl⟩ | ⟨htags, -⟩
  · cases hchanged
  · exact hf.changed htags

/-- A change that was made has nothing left to do, so the limit does not matter any more. -/
theorem change_again (hf : Tags.Settling f) (h : change f m = .ok marked) :
    change f marked.metadata = .ok ⟨false, marked.metadata⟩ := by
  have hsettled : (f (Tags.ofMetadata marked.metadata)).2 = false := by
    rw [ofMetadata_of_change hf h]
    exact hf.settled _
  simp only [change, hsettled]
  rfl

end Ownership

namespace MarkerCall

variable {c : MarkerCall}

theorem settling_onTags (hc : c.Storable) : Tags.Settling (c.onTags c.owner.toString) := by
  cases c with
  | markReferenced owner => exact Tags.settling_addReference hc.writable
  | markManaged owner => exact Tags.settling_addManager hc.writable
  | unmarkManaged owner => exact Tags.settling_removeManager owner.toString
  | unmarkReferenced owner => exact Tags.settling_removeReference owner.toString

/-- What a call reports is exact, and a call is made once. Take any metadata and any call for an
owner whose key can be stored and comes back as it is. If the call is refused, the metadata stays as
it was. If it reports no change, what it gives is the same metadata, and if it reports a change, the
labels or the annotations differ. The same call once more, on what the first one gave, is accepted,
reports no change and changes nothing. -/
theorem on_settles (hc : c.Storable) (m : ObjectMeta) :
    (∀ e, c.on m = .error e → c.after m = m) ∧
    ∀ marked, c.on m = .ok marked → c.after m = marked.metadata ∧
      (marked.changed = false ↔ marked.metadata = m) ∧
      (marked.changed = true ↔ marked.metadata.labelMap ≠ m.labelMap ∨
        marked.metadata.annotationMap ≠ m.annotationMap) ∧
      c.on marked.metadata = .ok ⟨false, marked.metadata⟩ := by
  have hsettling := settling_onTags hc
  refine ⟨?_, ?_⟩
  · exact fun e he => after_of_refused he
  · intro marked hmarked
    have hafter := after_of_ok hmarked
    rw [on_eq_change hc] at hmarked
    have hsame : marked.changed = false → marked.metadata = m := by
      intro hunchanged
      rcases Ownership.change_cases hmarked with ⟨-, rfl⟩ | ⟨-, rfl⟩
      · rfl
      · cases hunchanged
    have hdiffer : marked.changed = true → marked.metadata.labelMap ≠ m.labelMap ∨
        marked.metadata.annotationMap ≠ m.annotationMap := by
      intro hchanged
      have hne := Ownership.ofMetadata_ne_of_change hsettling hmarked hchanged
      by_cases hlabels : marked.metadata.labelMap = m.labelMap
      · exact .inr fun hannotations => hne (by
          rw [Tags.ofMetadata, Tags.ofMetadata, hlabels, hannotations])
      · exact .inl hlabels
    refine ⟨hafter, ⟨hsame, fun h => ?_⟩, ⟨hdiffer, fun h => ?_⟩, ?_⟩
    · -- Metadata that is the same has the same content, so no change was reported.
      refine Bool.eq_false_iff.2 fun hchanged => ?_
      rcases hdiffer hchanged with hne | hne <;> exact hne (by rw [h])
    · cases hunchanged : marked.changed with
      | true => rfl
      | false =>
        rw [hsame hunchanged] at h
        rcases h with hne | hne <;> exact absurd rfl hne
    · rw [on_eq_change hc]
      exact Ownership.change_again hsettling hmarked

/-- The last owner of an object is taken off whose label says something else, with gaps in the
references. The tags go, and the same call has nothing left to do. -/
theorem on_settles_lastOwner :
    let c := unmarkReferenced ⟨"team-a", "creds"⟩
    let m : ObjectMeta := {
      labels := some (.singleton linkedLabel "yes")
      annotations := some (.singleton referencesAnnotation " ,team-a/creds, ,") }
    let m' : ObjectMeta := { labels := some .empty, annotations := some .empty }
    c.Storable ∧ c.on m = .ok ⟨true, m'⟩ ∧ c.on m' = .ok ⟨false, m'⟩ ∧
      (m'.labelMap ≠ m.labelMap ∨ m'.annotationMap ≠ m.annotationMap) := by
  intro c m m'
  have hc : c.Storable := ⟨by decide, by decide⟩
  have hon : c.on m = .ok ⟨true, m'⟩ := rfl
  obtain ⟨-, -, hchanged, hagain⟩ := (on_settles hc m).2 _ hon
  exact ⟨hc, hon, hagain, hchanged.1 rfl⟩

end MarkerCall

end SecretSync
