import SecretSync.Command.Owners
import SecretSync.Proofs.Ownership.Bystanders
import SecretSync.Proofs.ReferencedSet.Canonical

/-!
# `SecretSync.Proofs.Command.OwnerRows`: the view of the owners of an object

The view goes through the references of an object, takes each apart at its
slash, and asks for each key that comes out whether it manages the object. That
question is put with the key written down again, and a marker refuses keys that
it cannot store. `OwnerKey.parse?_isSome_iff` and `map_toString_owners` settle
this: the entries with a slash are the ones that have keys, and a key is written
as the entry that it was read from, which is never refused.

`ownerRows_exact` is the statement about the whole view, for metadata of any
content.
-/

set_option autoImplicit false

namespace SecretSync

/-! ### Entries and keys -/

theorem Text.splitFirst_isSome_iff {d : Char} {cs : List Char} :
    (splitFirst d cs).isSome = true ↔ d ∈ cs := by
  constructor
  · intro h
    obtain ⟨⟨before, after⟩, hsplit⟩ := Option.isSome_iff_exists.1 h
    obtain ⟨rfl, -⟩ := splitFirst_eq_some_iff.1 hsplit
    simp
  · intro h
    obtain ⟨before, after, rfl, hfirst⟩ := List.eq_append_cons_of_mem h
    rw [splitFirst_eq_some_iff.2 ⟨rfl, hfirst⟩]
    rfl

/-- The texts that are keys are those with a slash. -/
theorem OwnerKey.parse?_isSome_iff (text : String) :
    (parse? text).isSome = true ↔ separator ∈ text.toList := by
  unfold parse? Text.splitOnce
  rw [Option.isSome_map, Option.isSome_map, Text.splitFirst_isSome_iff]

namespace Ownership

/-- Whether an entry of the references can be taken apart. -/
def hasSlash (entry : String) : Bool := decide (OwnerKey.separator ∈ entry.toList)

theorem parse?_isSome_eq (entry : String) : (OwnerKey.parse? entry).isSome = hasSlash entry := by
  rw [Bool.eq_iff_iff, OwnerKey.parse?_isSome_iff, hasSlash, decide_eq_true_iff]

theorem reads_referenceEntries (m : ObjectMeta) :
    ReferencedSet.Reads (Tags.ofMetadata m).listing ⟨referenceEntries m⟩ := by
  unfold referenceEntries
  rw [Tags.references_eq]
  exact ReferencedSet.reads_parse _

/-- The owners are the keys of the entries with a slash, in their order. -/
theorem map_some_owners (m : ObjectMeta) :
    (owners m).map some = ((referenceEntries m).filter hasSlash).map OwnerKey.parse? := by
  unfold owners
  induction referenceEntries m with
  | nil => rfl
  | cons e rest ih =>
    have hslash := parse?_isSome_eq e
    cases hparse : OwnerKey.parse? e with
    | none =>
      rw [hparse] at hslash
      rw [List.filterMap_cons_none hparse, List.filter_cons_of_neg (by simp [← hslash]), ih]
    | some k =>
      rw [hparse] at hslash
      rw [List.filterMap_cons_some hparse, List.filter_cons_of_pos hslash.symm, List.map_cons,
        List.map_cons, hparse, ih]

/-- A key is written as the entry that it was read from. -/
theorem map_toString_owners (m : ObjectMeta) :
    (owners m).map OwnerKey.toString = (referenceEntries m).filter hasSlash := by
  have hwritten : ∀ e ∈ (referenceEntries m).filter hasSlash,
      ((OwnerKey.parse? e).elim "" OwnerKey.toString) = e := by
    intro e he
    have hkey := (parse?_isSome_eq e).trans (List.mem_filter.1 he).2
    obtain ⟨k, hk⟩ := Option.isSome_iff_exists.1 hkey
    rw [hk]
    exact OwnerKey.toString_parse? hk
  calc (owners m).map OwnerKey.toString
      = ((owners m).map some).map (·.elim "" OwnerKey.toString) := by
        rw [List.map_map]
        rfl
    _ = ((referenceEntries m).filter hasSlash).map
          fun e => (OwnerKey.parse? e).elim "" OwnerKey.toString := by
        rw [map_some_owners, List.map_map]
        rfl
    _ = (referenceEntries m).filter hasSlash := by
        rw [List.map_congr_left hwritten, List.map_id']

theorem malformedEntries_eq (m : ObjectMeta) :
    malformedEntries m = (referenceEntries m).filter fun e => !hasSlash e := by
  unfold malformedEntries
  refine List.filter_congr fun e _ => ?_
  rw [← parse?_isSome_eq, ← Option.not_isSome]

theorem nodup_owners (m : ObjectMeta) : (owners m).Nodup := by
  have hentries : ((referenceEntries m).filter hasSlash).Nodup :=
    (reads_referenceEntries m).nodup.filter _
  rw [← map_toString_owners] at hentries
  exact hentries.of_map _

/-- The marker refuses no key that was read from the references. -/
theorem free_of_mem_owners {m : ObjectMeta} {k : OwnerKey} (h : k ∈ owners m) :
    ReferencedSet.delimiter ∉ k.toString.toList :=
  ((reads_referenceEntries m).writable _ ((mem_owners_iff m k).1 h).1).free

/-! ### Rows -/

/-- The view, with the question about each owner answered. -/
theorem ownerRows_eq (m : ObjectMeta) :
    ownerRows m = .ok ((owners m).map fun k => (k, manages k m)) := by
  have hanswer : ∀ k ∈ owners m, ((isManagedBy k m).map fun managing => (k, managing))
      = .ok (k, manages k m) := by
    intro k hk
    rw [isManagedBy_of_free (free_of_mem_owners hk)]
    rfl
  unfold ownerRows
  generalize owners m = keys at hanswer ⊢
  induction keys with
  | nil => rfl
  | cons k rest ih =>
    rw [List.mapM_cons, hanswer k List.mem_cons_self,
      ih fun k' hk' => hanswer k' (List.mem_cons_of_mem _ hk')]
    rfl

/-- At most one owner of an object manages it. -/
theorem countP_manages_le_one (m : ObjectMeta) : (owners m).countP (manages · m) ≤ 1 := by
  -- Whoever does is written in the manager annotation, and no two owners are written alike.
  have hmanager : ∀ text ∈ ((owners m).filter (manages · m)).map OwnerKey.toString,
      text = (Tags.ofMetadata m).manager.getD "" := by
    intro text htext
    obtain ⟨k, hk, rfl⟩ := List.mem_map.1 htext
    have hmanages := (manages_iff k m).1 (List.mem_filter.1 hk).2
    rw [((isManagedBy_iff k m).1 hmanages).2]
    rfl
  have hnodup : (((owners m).filter (manages · m)).map OwnerKey.toString).Nodup := by
    refine List.Nodup.sublist (List.filter_sublist.map _) ?_
    rw [map_toString_owners]
    exact (reads_referenceEntries m).nodup.filter _
  rw [List.eq_replicate_of_mem hmanager, List.nodup_replicate, List.length_map] at hnodup
  rw [List.countP_eq_length_filter]
  exact hnodup

/-- What the view of the owners of an object shows. -/
structure ShowsOwners (m : ObjectMeta) (rows : List (OwnerKey × Bool)) : Prop where
  distinct : (rows.map Prod.fst).Nodup
  /-- The keys are those of the entries with a slash, in their order. -/
  keys : rows.map (fun row => some row.1)
    = ((referenceEntries m).filter hasSlash).map OwnerKey.parse?
  /-- A key is shown as the entry that it was read from. -/
  entries : rows.map (fun row => row.1.toString) = (referenceEntries m).filter hasSlash
  /-- For each of the other entries there is a warning. -/
  skipped : malformedEntries m = (referenceEntries m).filter fun e => !hasSlash e
  count : rows.length + (malformedWarnings m).length = (Tags.ofMetadata m).references.size
  managing : ∀ row ∈ rows, isManagedBy row.1 m = .ok row.2
  oneManager : rows.countP (·.2) ≤ 1
  /-- On an object with the label, every owner that references it is shown. -/
  complete : m.labelMap.get? linkedLabel = some linkedValue → ∀ k : OwnerKey,
    OwnerKey.separator ∉ k.ns.toList → ReferencedSet.delimiter ∉ k.toString.toList →
    (k ∈ rows.map Prod.fst ↔ isReferencedBy k m = .ok true)

/-- The view of the owners is complete and agrees with every other way to ask. For metadata of any
content there is a view. Its rows are different, they are what the entries of the references with a
slash read as, in stored order, and with the skipped entries, each of which is warned about, they
make up all references. A row tells whether its owner manages the object, which holds of one at
most. If the object has the label, the keys in the rows are those that reference it. -/
theorem ownerRows_exact (m : ObjectMeta) : ∃ rows, ownerRows m = .ok rows ∧ ShowsOwners m rows := by
  refine ⟨_, ownerRows_eq m, ?_⟩
  have hfst : ((owners m).map fun k => (k, manages k m)).map Prod.fst = owners m := by
    rw [List.map_map]
    exact List.map_id _
  refine
    { distinct := ?_, keys := ?_, entries := ?_, skipped := malformedEntries_eq m, count := ?_,
      managing := ?_, oneManager := ?_, complete := ?_ }
  · rw [hfst]
    exact nodup_owners m
  · rw [List.map_map]
    exact map_some_owners m
  · rw [List.map_map]
    exact map_toString_owners m
  · have hlength := congrArg List.length (map_toString_owners m)
    rw [List.length_map] at hlength
    unfold malformedWarnings
    rw [List.length_map, List.length_map, malformedEntries_eq, hlength,
      ← List.length_eq_length_filter_add]
    rfl
  · intro row hrow
    obtain ⟨k, hk, rfl⟩ := List.mem_map.1 hrow
    exact isManagedBy_of_free (free_of_mem_owners hk) m
  · rw [List.countP_map]
    exact countP_manages_le_one m
  · intro hlabel k hns hfree
    rw [hfst, mem_owners_iff, isReferencedBy_of_linked hfree (beq_iff_eq.2 hlabel),
      Except.ok.injEq, decide_eq_true_iff]
    exact and_iff_left hns

/-- Of the entries of an object two are owners and one is skipped; the second owner manages it. -/
theorem ownerRows_exact_shared : ∃ rows, ownerRows sharedByHandMarked = .ok rows ∧
    sharedByHandMarked.labelMap.get? linkedLabel = some linkedValue ∧
    rows.map (fun row => row.1.toString) = ["team-b/db", "team-a/creds"] ∧
    (malformedEntries sharedByHandMarked) = ["nobody"] ∧
    ⟨"team-a", "creds"⟩ ∈ rows.map Prod.fst := by
  obtain ⟨rows, hrows, hshows⟩ := ownerRows_exact sharedByHandMarked
  have hlabel : sharedByHandMarked.labelMap.get? linkedLabel = some linkedValue := rfl
  have hreferenced : isReferencedBy ⟨"team-a", "creds"⟩ sharedByHandMarked = .ok true := rfl
  refine ⟨rows, hrows, hlabel, hshows.entries.trans (by decide +kernel),
    hshows.skipped.trans (by decide +kernel), ?_⟩
  exact (hshows.complete hlabel ⟨"team-a", "creds"⟩ (by decide) (by decide)).2 hreferenced

end Ownership

end SecretSync
