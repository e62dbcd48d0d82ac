import SecretSync.Proofs.Binding.Payload

/-!
# `SecretSync.Proofs.Binding.FixedPoint`: preparing a prepared secret again

What a sync sends is the wanted secret, put over the stored one and then
marked. `prepared_again` says that doing this once more, over what was sent, is
accepted and gives the same secret. So it is a fixed point of everything that
an update does between its read and its replacement.

Labels and annotations are compared by their look-ups (`marked_marked`). The
spec may want values under the ownership tags. They come back with the second
overlay, and the second marking takes them away as the first one did. The
references are the delicate part: whoever wrote the value, adding an owner to
it twice is adding it once, if the key of the owner reads back as it is written
(`withReference_withReference`).

The limit on the size of the annotations cannot stop the second marking. Either
the first one has passed the limit with the same annotations, or it changed
nothing, and then the second one changes nothing either
(`marking_again_accepted`).
-/

set_option autoImplicit false

namespace SecretSync

/-- Wanted entries that were put over a map already change nothing when they are put over it
again. -/
theorem SortedMap.merge_of_agrees {α : Type} {m wanted : SortedMap α}
    (h : ∀ k v, wanted.get? k = some v → m.get? k = some v) : m.merge wanted = m := by
  refine SortedMap.ext_get? fun k => ?_
  rw [SortedMap.get?_merge]
  cases hk : wanted.get? k with
  | none => rfl
  | some v => exact (h k v hk).symm

/-- Adding an owner to the references twice is adding it once, if its key reads back as it is
written. -/
theorem withReference_withReference {key : String} (hfree : ReferencedSet.delimiter ∉ key.toList)
    (hne : key ≠ "") (htrim : Text.trim key = key) (value : String) :
    withReference key (withReference key value) = withReference key value := by
  have hlisted : key ∈ ReferencedSet.listed (withReference key value) :=
    (mem_listed_withReference hfree (htrim.symm ▸ hne) value key).2 (.inr htrim.symm)
  exact if_pos ((ReferencedSet.contains_iff _ _).2 ((ReferencedSet.mem_parse _ _).2 hlisted))

/-! ### Tags -/

namespace Tags

/-- The tags with everything that a spec wants put over them. -/
def wanting (t : Tags) (spec : SecretSpec) : Tags :=
  ⟨t.labels.merge spec.labels, t.annotations.merge spec.annotations⟩

/-- The tags that a sync gives an object: those that the spec wants, and then those of its
manager. -/
def marked (t : Tags) (spec : SecretSpec) (key : String) : Tags :=
  ((t.wanting spec).addManager key).1

variable {spec : SecretSpec} {key : String}

theorem wanting_wanting (t : Tags) (spec : SecretSpec) :
    (t.wanting spec).wanting spec = t.wanting spec := by
  have hagrees (m wanted : SortedMap String) :
      (m.merge wanted).merge wanted = m.merge wanted := by
    refine SortedMap.merge_of_agrees fun k v hk => ?_
    rw [SortedMap.get?_merge, hk]
    rfl
  unfold wanting
  rw [hagrees, hagrees]

theorem get?_labels_marked (t : Tags) (k : String) :
    (t.marked spec key).labels.get? k
      = if k = linkedLabel then some linkedValue
        else (spec.labels.get? k).or (t.labels.get? k) := by
  unfold marked
  rw [addManager_fst, SortedMap.get?_insert]
  unfold wanting
  rw [SortedMap.get?_merge]

theorem get?_annotations_marked (t : Tags) (k : String) :
    (t.marked spec key).annotations.get? k
      = if k = managerAnnotation then some key
        else if k = referencesAnnotation then some (withReference key (t.wanting spec).listing)
        else (spec.annotations.get? k).or (t.annotations.get? k) := by
  unfold marked
  rw [addManager_fst, SortedMap.get?_insert, SortedMap.get?_insert]
  unfold wanting
  rw [SortedMap.get?_merge]

/-- The references that marking starts from are the wanted ones, if any are wanted. -/
theorem listing_wanting (t : Tags) (spec : SecretSpec) :
    (t.wanting spec).listing = (spec.annotations.get? referencesAnnotation).getD t.listing := by
  unfold listing wanting
  rw [SortedMap.get?_merge]
  cases spec.annotations.get? referencesAnnotation <;> rfl

theorem listing_marked (t : Tags) :
    (t.marked spec key).listing = withReference key (t.wanting spec).listing := by
  have hget : (t.marked spec key).annotations.get? referencesAnnotation
      = some (withReference key (t.wanting spec).listing) := by
    rw [get?_annotations_marked, if_neg (by decide), if_pos rfl]
  show ((t.marked spec key).annotations.get? referencesAnnotation).getD "" = _
  rw [hget, Option.getD_some]

/-- Tags are the same if both maps are. -/
theorem eq_of_maps {t t' : Tags} (hlabels : t.labels = t'.labels)
    (hannotations : t.annotations = t'.annotations) : t = t' := by
  cases t
  cases t'
  exact congrArg₂ mk hlabels hannotations

/-- Giving an object these tags twice is giving them once. -/
theorem marked_marked (hfree : ReferencedSet.delimiter ∉ key.toList) (hne : key ≠ "")
    (htrim : Text.trim key = key) (t : Tags) (spec : SecretSpec) :
    (t.marked spec key).marked spec key = t.marked spec key := by
  have hor (wanted stored : Option String) :
      wanted.or (wanted.or stored) = wanted.or stored := by
    cases wanted <;> rfl
  -- The second marking starts from the wanted references again, or from those of the first one.
  have hreferences : withReference key ((t.marked spec key).wanting spec).listing
      = withReference key (t.wanting spec).listing := by
    rw [listing_wanting, listing_marked, listing_wanting]
    cases spec.annotations.get? referencesAnnotation with
    | none =>
      rw [Option.getD_none, Option.getD_none]
      exact withReference_withReference hfree hne htrim _
    | some wanted => rw [Option.getD_some, Option.getD_some]
  have hlabels : ((t.marked spec key).marked spec key).labels = (t.marked spec key).labels := by
    refine SortedMap.ext_get? fun k => ?_
    rw [get?_labels_marked, get?_labels_marked]
    by_cases hlabel : k = linkedLabel
    · rw [if_pos hlabel, if_pos hlabel]
    · rw [if_neg hlabel, if_neg hlabel, hor]
  have hannotations :
      ((t.marked spec key).marked spec key).annotations = (t.marked spec key).annotations := by
    refine SortedMap.ext_get? fun k => ?_
    rw [get?_annotations_marked, get?_annotations_marked, hreferences]
    by_cases hmanager : k = managerAnnotation
    · rw [if_pos hmanager, if_pos hmanager]
    · rw [if_neg hmanager, if_neg hmanager]
      by_cases hreference : k = referencesAnnotation
      · rw [if_pos hreference, if_pos hreference]
      · rw [if_neg hreference, if_neg hreference, hor]
  exact eq_of_maps hlabels hannotations

/-- So marking what is wanted over such tags gives them back. -/
theorem addManager_wanting_marked (hfree : ReferencedSet.delimiter ∉ key.toList) (hne : key ≠ "")
    (htrim : Text.trim key = key) (t : Tags) (spec : SecretSpec) :
    (((t.marked spec key).wanting spec).addManager key).1 = t.marked spec key :=
  marked_marked hfree hne htrim t spec

end Tags

/-! ### Marking -/

namespace Ownership

variable {m : ObjectMeta} {marked : Marked} {owner : OwnerKey} {spec : SecretSpec}

/-- Marking is accepted if it changes nothing, or if the new annotations are not too large. -/
theorem markManaged_isOk_iff (hfree : ReferencedSet.delimiter ∉ owner.toString.toList)
    (m : ObjectMeta) :
    (∃ marked, markManaged owner m = .ok marked) ↔
      ((Tags.ofMetadata m).addManager owner.toString).2 = false ∨
      annotationBytes ((Tags.ofMetadata m).addManager owner.toString).1.annotations
        ≤ annotationLimit := by
  rw [markManaged_of_free hfree]
  simp only [change]
  split
  · rename_i hsame
    exact iff_of_true ⟨_, rfl⟩ (.inl (by simpa using hsame))
  · rename_i hchanged
    split
    · rename_i hlarge
      refine iff_of_false ?_ ?_
      · rintro ⟨marked, hmarked⟩
        cases hmarked
      · rintro (hsame | hsmall)
        · exact hchanged (by simpa using hsame)
        · exact absurd hsmall (Nat.not_le.2 hlarge)
    · rename_i hsmall
      exact iff_of_true ⟨_, rfl⟩ (.inr (Nat.not_lt.1 hsmall))

/-- Marked metadata is the same object with the new tags, also if they are the old ones: an object
that need not change has both maps. -/
theorem metadata_of_markManaged (h : markManaged owner m = .ok marked) :
    marked.metadata = ((Tags.ofMetadata m).addManager owner.toString).1.writeTo m := by
  rcases change_cases (change_of_markManaged h).2 with ⟨hsame, rfl⟩ | ⟨-, rfl⟩
  · have htags := ofMetadata_of_markManaged h
    obtain ⟨hlabel, hrest⟩ := Prod.mk.inj (ownershipTags_of_markManaged h)
    obtain ⟨hmanager, -⟩ := Prod.mk.inj hrest
    have hpresent : ∀ {found : Option (SortedMap String)} {k v : String},
        (found.getD .empty).get? k = some v → found = some (found.getD .empty) := by
      intro found k v hk
      cases found with
      | none => cases hk
      | some map => rfl
    have hlabels : m.labels = some m.labelMap := hpresent hlabel
    have hannotations : m.annotations = some m.annotationMap := hpresent hmanager
    rw [← htags]
    show m = { m with labels := some m.labelMap, annotations := some m.annotationMap }
    rw [← hlabels, ← hannotations]
  · rfl

/-- Marking what is wanted over an object that was marked for the same owner with the same spec is
accepted. -/
theorem marking_again_accepted (t : Tags) {m' : ObjectMeta}
    (htrim : Text.trim owner.toString = owner.toString) (h : markManaged owner m = .ok marked)
    (hm : Tags.ofMetadata m = t.wanting spec)
    (hm' : Tags.ofMetadata m' = (t.marked spec owner.toString).wanting spec) :
    ∃ marked', markManaged owner m' = .ok marked' := by
  have hfree := (change_of_markManaged h).1
  rw [markManaged_isOk_iff hfree, hm']
  rcases (markManaged_isOk_iff hfree m).1 ⟨marked, h⟩ with hsame | hsmall
  · -- The first marking found the tags as they should be, so there is nothing to want over them.
    left
    rw [hm] at hsame
    unfold Tags.marked
    rwa [Tags.addManager_of_unchanged hsame, Tags.wanting_wanting]
  · right
    have hne : owner.toString ≠ "" := htrim ▸ OwnerKey.trim_toString_ne_empty owner
    rw [Tags.addManager_wanting_marked hfree hne htrim]
    rw [hm] at hsmall
    unfold Tags.marked
    exact hsmall

end Ownership

/-! ### The whole secret -/

/-- The tags of an object that need not exist. -/
def Tags.ofStored (stored : Option Secret) : Tags :=
  match stored with
  | none => ⟨.empty, .empty⟩
  | some stored => .ofMetadata stored.metadata

/-- Before marking, the secret has the stored tags with everything wanted over them. -/
theorem DesiredSecret.tags_over (d : DesiredSecret) (ns : String) (stored : Option Secret) :
    Tags.ofMetadata (d.over ns stored).metadata = (Tags.ofStored stored).wanting d.spec := by
  have hlabels : (d.over ns stored).metadata.labelMap
      = (Tags.ofStored stored).labels.merge d.spec.labels := by
    refine SortedMap.ext_get? fun k => ?_
    rw [DesiredSecret.get?_labels_over, SortedMap.get?_merge]
    cases stored <;> rfl
  have hannotations : (d.over ns stored).metadata.annotationMap
      = (Tags.ofStored stored).annotations.merge d.spec.annotations := by
    refine SortedMap.ext_get? fun k => ?_
    rw [DesiredSecret.get?_annotations_over, SortedMap.get?_merge]
    cases stored <;> rfl
  exact congrArg₂ Tags.mk hlabels hannotations

/-- Writing the tags of a secret to what is wanted over it gives its metadata back. -/
theorem DesiredSecret.writeTo_overlay (d : DesiredSecret) {s : Secret} {t : Tags}
    (hlabels : s.metadata.labels = some t.labels)
    (hannotations : s.metadata.annotations = some t.annotations) :
    t.writeTo (d.overlay s).metadata = s.metadata := by
  show { s.metadata with labels := some t.labels, annotations := some t.annotations } = s.metadata
  rw [← hlabels, ← hannotations]

namespace Handler

variable {t t' : DeploymentTarget} {d d' : DesiredSecret}

/-- A prepared secret has both maps of tags, with the stored tags marked in them. -/
theorem tags_of_prepared {stored : Option Secret} {secret : Secret}
    (hp : (⟨t, .ofTags⟩ : Handler).prepared d stored = .ok secret) :
    let tags := (Tags.ofStored stored).marked d.spec t.owner.toString
    secret.metadata.labels = some tags.labels ∧
      secret.metadata.annotations = some tags.annotations := by
  intro tags
  obtain ⟨marked, hm, rfl⟩ := markManaged_of_prepared hp
  have hmetadata : marked.metadata = tags.writeTo (d.over t.ns stored).metadata := by
    rw [Ownership.metadata_of_markManaged hm, DesiredSecret.tags_over]
    rfl
  show marked.metadata.labels = _ ∧ marked.metadata.annotations = _
  rw [hmetadata]
  exact ⟨rfl, rfl⟩

/-- A prepared secret has data, and the wanted data is in it. -/
theorem data_of_prepared {stored : Option Secret} {secret : Secret}
    (hp : (⟨t, .ofTags⟩ : Handler).prepared d stored = .ok secret) :
    ∃ data, secret.data = some data ∧ data.merge d.data = data := by
  obtain ⟨data, hover⟩ : ∃ data, (d.over t.ns stored).data = some data := by
    cases stored <;> exact ⟨_, rfl⟩
  refine ⟨data, (sameObject_of_prepared hp).2.trans hover, SortedMap.merge_of_agrees ?_⟩
  intro k v hk
  have hget := DesiredSecret.get?_data_over d t.ns stored k
  rw [hover, hk] at hget
  exact hget

/-- A secret with the tags and the data that were prepared for an owner is what is prepared over it
again. -/
theorem prepared_again {stored : Option Secret} {sent s : Secret}
    (htrim : Text.trim t.owner.toString = t.owner.toString)
    (hp : (⟨t, .ofTags⟩ : Handler).prepared d stored = .ok sent)
    (howner : t'.owner = t.owner) (hspec : d'.spec = d.spec) (hdata : d'.data = d.data)
    (hlabels : s.metadata.labels = sent.metadata.labels)
    (hannotations : s.metadata.annotations = sent.metadata.annotations)
    (hsame : s.data = sent.data) :
    (⟨t', .ofTags⟩ : Handler).prepared d' (some s) = .ok s := by
  obtain ⟨first, hm, -⟩ := markManaged_of_prepared hp
  obtain ⟨hsentLabels, hsentAnnotations⟩ := tags_of_prepared hp
  rw [← hlabels] at hsentLabels
  rw [← hannotations] at hsentAnnotations
  have hstored : Tags.ofStored (some s) = (Tags.ofStored stored).marked d.spec t.owner.toString :=
    Tags.eq_of_maps (congrArg (·.getD .empty) hsentLabels)
      (congrArg (·.getD .empty) hsentAnnotations)
  have hover := d'.tags_over t'.ns (some s)
  rw [hspec, hstored] at hover
  obtain ⟨again, hagain⟩ := Ownership.marking_again_accepted _ htrim hm (d.tags_over t.ns stored)
    hover
  -- The second marking is accepted, and its tags are those that are there.
  have hunchanged : again.metadata = s.metadata := by
    have hfree := free_of_prepared hp
    have hne : t.owner.toString ≠ "" := htrim ▸ OwnerKey.trim_toString_ne_empty t.owner
    rw [Ownership.metadata_of_markManaged hagain, hover,
      Tags.addManager_wanting_marked hfree hne htrim]
    exact d'.writeTo_overlay hsentLabels hsentAnnotations
  obtain ⟨data, hsent, hmerge⟩ := data_of_prepared hp
  have hcontents : some ((s.data.getD .empty).merge d'.data) = s.data := by
    rw [hsame, hdata, hsent]
    exact congrArg some hmerge
  unfold prepared
  rw [howner]
  show (Ownership.markManaged t.owner _).map _ = _
  rw [hagain]
  show Except.ok { s with
    metadata := again.metadata
    data := some ((s.data.getD .empty).merge d'.data) } = .ok s
  rw [hunchanged, hcontents]

end Handler

end SecretSync
