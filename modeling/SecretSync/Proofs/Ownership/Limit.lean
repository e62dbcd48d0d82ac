import SecretSync.Proofs.Ownership.Bystanders
import SecretSync.Proofs.SortedMap
import SecretSync.Proofs.Text.Sizes

/-!
# `SecretSync.Proofs.Ownership.Limit`: the size of the annotations

A cluster takes annotations up to a limit, and a marker refuses a change that
would leave it. To take an owner out must never be such a change, or an object
that is nearly full would keep its owners for ever.

Taking an owner out writes the other references anew, and anybody may have
written them before. `ReferencedSet.toString_remove_sublist` says that the new
text is a part of the old one: trimming, dropping and joining again only take
characters away. So no call that takes an owner out makes the annotations
larger (`Tags.bytes_removeReference_le`), and `within_limit` follows: those
calls are never refused for an object within the limit, and no calls at all
lead out of it.
-/

set_option autoImplicit false

namespace SecretSync

/-! ### Bytes of annotations -/

/-- The bytes of an annotation. -/
def annotationSize (key value : String) : Nat := key.utf8ByteSize + value.utf8ByteSize

theorem annotationBytes_eq_sumOf (annotations : SortedMap String) :
    annotationBytes annotations = annotations.sumOf annotationSize :=
  List.foldr_map.symm

theorem annotationBytes_erase_le (annotations : SortedMap String) (key : String) :
    annotationBytes (annotations.erase key) ≤ annotationBytes annotations := by
  have hsum := annotations.sumOf_erase annotationSize key
  rw [annotationBytes_eq_sumOf, annotationBytes_eq_sumOf]
  omega

/-- No annotation is larger than all of them. -/
theorem annotationSize_le {annotations : SortedMap String} {key value : String}
    (h : annotations.get? key = some value) :
    annotationSize key value ≤ annotationBytes annotations := by
  rw [annotationBytes_eq_sumOf]
  exact SortedMap.le_sumOf annotationSize h

/-- An annotation that gets a value that is not larger. -/
theorem annotationBytes_insert_le {annotations : SortedMap String} {key value old : String}
    (h : annotations.get? key = some old) (hle : value.utf8ByteSize ≤ old.utf8ByteSize) :
    annotationBytes (annotations.insert key value) ≤ annotationBytes annotations := by
  have hsum := annotations.sumOf_insert annotationSize key value
  rw [SortedMap.weightAt_of_get? annotationSize h] at hsum
  rw [annotationBytes_eq_sumOf, annotationBytes_eq_sumOf]
  unfold annotationSize at hsum ⊢
  omega

/-! ### References that are written anew -/

namespace ReferencedSet

theorem foldl_add_sublist (values : List String) (s : ReferencedSet) :
    (values.foldl add s).entries.Sublist (s.entries ++ values) := by
  induction values generalizing s with
  | nil => rw [List.append_nil]; exact List.Sublist.refl _
  | cons v rest ih =>
    refine (ih (s.add v)).trans ?_
    unfold add
    split
    · exact (List.Sublist.refl _).append (List.sublist_cons_self v rest)
    · rw [List.append_assoc]
      exact List.Sublist.refl _

/-- What is written for a value without one of its entries is a part of the value. -/
theorem toString_remove_sublist (value e : String) :
    ((parse value).remove e).toString.toList.Sublist value.toList := by
  -- The entries that are left are some of the trimmed pieces, in their order.
  have hentries : ((parse value).remove e).entries.Sublist
      ((Text.splitAll delimiter value).map Text.trim) :=
    List.filter_sublist.trans ((foldl_add_sublist (listed value) empty).trans List.filter_sublist)
  have hpieces := hentries.map String.toList
  rw [Text.map_toList_trim_splitAll] at hpieces
  unfold toString
  rw [String.toList_ofList]
  exact Text.joinWith_trimmed_sublist hpieces

end ReferencedSet

namespace Tags

variable (t : Tags) (key : String)

theorem bytes_removeManager_le :
    annotationBytes (t.removeManager key).1.annotations ≤ annotationBytes t.annotations := by
  unfold removeManager
  split
  · exact annotationBytes_erase_le _ _
  · exact Nat.le_refl _

theorem bytes_dropReference_le :
    annotationBytes (t.dropReference key).1.annotations ≤ annotationBytes t.annotations := by
  rw [dropReference_fst]
  split
  · exact annotationBytes_erase_le _ _
  · split
    · rename_i hlisted
      rw [references_eq] at hlisted ⊢
      have hsize := Text.utf8ByteSize_le_of_sublist
        (ReferencedSet.toString_remove_sublist t.listing key)
      exact annotationBytes_insert_le (get?_of_listed t key hlisted) hsize
    · exact Nat.le_refl _

theorem bytes_removeReference_le :
    annotationBytes (t.removeReference key).1.annotations ≤ annotationBytes t.annotations :=
  Nat.le_trans (bytes_dropReference_le (t.removeManager key).1 key) (bytes_removeManager_le t key)

end Tags

/-! ### The limit -/

namespace Ownership

variable {f : Tags → Tags × Bool} {m : ObjectMeta} {marked : Marked}

/-- The annotations of the object are no larger than a cluster accepts. -/
def WithinLimit (m : ObjectMeta) : Prop := annotationBytes m.annotationMap ≤ annotationLimit

/-- A change of the tags that leaves the annotations within the limit is not refused. -/
theorem change_of_within
    (h : annotationBytes (f (Tags.ofMetadata m)).1.annotations ≤ annotationLimit) :
    ∃ marked, change f m = .ok marked := by
  simp only [change]
  split
  · exact ⟨_, rfl⟩
  · rw [if_neg (Nat.not_lt.2 h)]
    exact ⟨_, rfl⟩

/-- What a change has written is within the limit. -/
theorem withinLimit_of_changed (h : change f m = .ok marked) (hchanged : marked.changed = true) :
    WithinLimit marked.metadata := by
  simp only [change] at h
  split at h
  · obtain rfl := Except.ok.inj h
    cases hchanged
  · split at h
    · cases h
    · rename_i hsize
      obtain rfl := Except.ok.inj h
      exact Nat.not_lt.1 hsize

theorem withinLimit_of_change (hm : WithinLimit m) (h : change f m = .ok marked) :
    WithinLimit marked.metadata := by
  rcases change_cases h with ⟨-, rfl⟩ | ⟨-, hmarked⟩
  · exact hm
  · exact withinLimit_of_changed h (by rw [hmarked])

/-- Marking that would make annotations too large is refused with their size, unless the owner
manages the object already. -/
theorem markManaged_of_large {owner : OwnerKey}
    (hfree : ReferencedSet.delimiter ∉ owner.toString.toList)
    (hmanaged : isManagedBy owner m ≠ .ok true)
    (hlarge : annotationLimit
      < annotationBytes ((Tags.ofMetadata m).addManager owner.toString).1.annotations) :
    markManaged owner m = .error (.annotationsTooLarge
      (annotationBytes ((Tags.ofMetadata m).addManager owner.toString).1.annotations)
      annotationLimit) := by
  have hchanged : ((Tags.ofMetadata m).addManager owner.toString).2 = true :=
    eq_true_of_ne_false fun hsame => hmanaged ((addManager_unchanged_iff hfree m).1 hsame)
  rw [markManaged_of_free hfree]
  simp only [change, hchanged, Bool.not_true, Bool.false_eq_true, if_false]
  exact if_pos hlarge

end Ownership

namespace MarkerCall

open Ownership (WithinLimit)

variable {c : MarkerCall} {m : ObjectMeta}

/-- The calls that take an owner out do not make the annotations larger. -/
theorem bytes_onTags_le (hc : ¬c.Marks) (key : String) (t : Tags) :
    annotationBytes (c.onTags key t).1.annotations ≤ annotationBytes t.annotations := by
  cases c with
  | markReferenced owner => exact absurd trivial hc
  | markManaged owner => exact absurd trivial hc
  | unmarkManaged owner => exact Tags.bytes_removeManager_le t key
  | unmarkReferenced owner => exact Tags.bytes_removeReference_le t key

theorem bytes_on_le (hc : ¬c.Marks) {marked : Marked} (h : c.on m = .ok marked) :
    annotationBytes marked.metadata.annotationMap ≤ annotationBytes m.annotationMap := by
  rw [on_eq_mark] at h
  rcases Ownership.change_cases (Ownership.change_of_stored h).2 with ⟨-, rfl⟩ | ⟨-, rfl⟩
  · exact Nat.le_refl _
  · exact bytes_onTags_le hc _ _

theorem withinLimit_of_on (hm : WithinLimit m) {marked : Marked} (h : c.on m = .ok marked) :
    WithinLimit marked.metadata := by
  rw [on_eq_mark] at h
  exact Ownership.withinLimit_of_change hm (Ownership.change_of_stored h).2

theorem withinLimit_after (hm : WithinLimit m) (c : MarkerCall) : WithinLimit (c.after m) := by
  rcases c.after_eq m with hafter | ⟨marked, hon, hafter⟩ <;> rw [hafter]
  · exact hm
  · exact withinLimit_of_on hm hon

theorem withinLimit_afterAll (hm : WithinLimit m) (calls : List MarkerCall) :
    WithinLimit (afterAll calls m) := by
  induction calls generalizing m with
  | nil => exact hm
  | cons c rest ih => exact ih (withinLimit_after hm c)

/-- Owners and the limit. Take metadata of any content with annotations within the limit. An owner
whose key can be stored is taken out of the references or of the management without refusal, and the
annotations are not larger then than before. Any call that succeeds leaves the annotations within
the limit, and so do any calls one after the other, refused ones among them. -/
theorem within_limit (hm : WithinLimit m) :
    (∀ owner : OwnerKey, ReferencedSet.delimiter ∉ owner.toString.toList →
      ∀ c ∈ [unmarkReferenced owner, unmarkManaged owner], ∃ marked, c.on m = .ok marked ∧
        annotationBytes marked.metadata.annotationMap ≤ annotationBytes m.annotationMap) ∧
    (∀ (c : MarkerCall) (marked : Marked), c.on m = .ok marked → WithinLimit marked.metadata) ∧
    ∀ calls : List MarkerCall, WithinLimit (afterAll calls m) := by
  refine ⟨?_, fun c marked => withinLimit_of_on hm, withinLimit_afterAll hm⟩
  intro owner hfree c hmem
  have hkind : c.owner = owner ∧ ¬c.Marks := by
    simp only [List.mem_cons, List.not_mem_nil, or_false] at hmem
    rcases hmem with rfl | rfl <;> exact ⟨rfl, id⟩
  obtain ⟨rfl, hc⟩ := hkind
  have hsmaller := bytes_onTags_le hc c.owner.toString (Tags.ofMetadata m)
  obtain ⟨marked, hmarked⟩ := Ownership.change_of_within (Nat.le_trans hsmaller hm)
  rw [← on_of_free hfree] at hmarked
  exact ⟨marked, hmarked, bytes_on_le hc hmarked⟩

/-- A text of so many bytes. -/
def filler (size : Nat) : String := String.ofList (List.replicate size 'x')

theorem utf8ByteSize_filler (size : Nat) : (filler size).utf8ByteSize = size := by
  unfold filler
  rw [Text.utf8ByteSize_ofList, Text.charBytes, List.map_replicate, List.sum_replicate_nat]
  exact Nat.mul_one size

/-- References of two owners that were written by hand. -/
def raggedReferences : SortedMap String :=
  .singleton referencesAnnotation " team-b/db ,,team-a/creds,"

/-- An object that is full to the last byte. -/
def fullObject : ObjectMeta where
  labels := some (.singleton linkedLabel linkedValue)
  annotations := some (raggedReferences.insert "note" (filler 262076))

theorem annotationBytes_fullObject : annotationBytes fullObject.annotationMap = 262144 := by
  have hreferences : raggedReferences.sumOf annotationSize = 64 := by decide +kernel
  have hnone : raggedReferences.weightAt annotationSize "note" = 0 := by decide +kernel
  have hkey : "note".utf8ByteSize = 4 := by decide
  have hsum := raggedReferences.sumOf_insert annotationSize "note" (filler 262076)
  rw [hreferences, hnone, Nat.add_zero, annotationSize, utf8ByteSize_filler, hkey] at hsum
  show annotationBytes (raggedReferences.insert "note" (filler 262076)) = 262144
  rw [annotationBytes_eq_sumOf, hsum]

/-- From a full object an owner is taken out, although the references are written anew. -/
theorem within_limit_full :
    let owner : OwnerKey := ⟨"team-a", "creds"⟩
    WithinLimit fullObject ∧ ReferencedSet.delimiter ∉ owner.toString.toList ∧
      ∃ marked, (unmarkReferenced owner).on fullObject = .ok marked ∧
        annotationBytes marked.metadata.annotationMap ≤ 262144 := by
  intro owner
  have hfull : WithinLimit fullObject := Nat.le_of_eq annotationBytes_fullObject
  have hfree : ReferencedSet.delimiter ∉ owner.toString.toList := by decide
  obtain ⟨marked, hmarked, hsize⟩ := (within_limit hfull).1 owner hfree _ List.mem_cons_self
  rw [annotationBytes_fullObject] at hsize
  exact ⟨hfull, hfree, marked, hmarked, hsize⟩

end MarkerCall

end SecretSync
