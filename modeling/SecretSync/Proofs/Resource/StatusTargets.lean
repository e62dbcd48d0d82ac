import SecretSync.Resource.Status

/-!
# `SecretSync.Proofs.Resource.StatusTargets`: changing the entry of a target

The targets in a status are a list, and a target may have several entries
there. Reading takes the first one, and so does writing: `updateTarget` changes
the first entry where it stands, or adds one at the end.

The statements say what an update does to every look-up and to every place of
the list. They are about any change that leaves namespace and address alone,
and about any two targets of which no entry is for both.
-/

set_option autoImplicit false

namespace SecretSync

/-- Leaving out the empty address does not change the cluster. -/
theorem clusterAddress_filter (apiUrl : Option String) :
    clusterAddress (apiUrl.filter (!·.isEmpty)) = clusterAddress apiUrl := by
  cases apiUrl with
  | none => rfl
  | some url =>
    by_cases h : url.isEmpty = true
    · rw [String.isEmpty_iff.1 h]
      rfl
    · simp [Option.filter, h]

/-- Without the empty address, there is one way to write the address of a cluster. -/
theorem filter_eq_iff_clusterAddress (apiUrl apiUrl' : Option String) :
    apiUrl.filter (!·.isEmpty) = apiUrl'.filter (!·.isEmpty) ↔
      clusterAddress apiUrl = clusterAddress apiUrl' := by
  have hfilter (apiUrl : Option String) : apiUrl.filter (!·.isEmpty)
      = if clusterAddress apiUrl = "" then none else some (clusterAddress apiUrl) := by
    cases apiUrl with
    | none => rfl
    | some url => by_cases h : url = "" <;> simp [Option.filter, clusterAddress, h]
  constructor
  · intro h
    rw [← clusterAddress_filter, h, clusterAddress_filter]
  · intro h
    rw [hfilter, hfilter, h]

namespace TargetStatus

theorem isFor_iff (t : TargetStatus) (ns : String) (apiUrl : Option String) :
    t.isFor ns apiUrl = true ↔
      t.ns = ns ∧ clusterAddress t.apiUrl = clusterAddress apiUrl := by
  unfold isFor
  rw [Bool.and_eq_true, beq_iff_eq, beq_iff_eq]

/-- The new entry of a target is one of it. -/
theorem isFor_blank (ns : String) (apiUrl : Option String) :
    (blank ns apiUrl).isFor ns apiUrl = true :=
  (isFor_iff _ ns apiUrl).2 ⟨rfl, clusterAddress_filter apiUrl⟩

end TargetStatus

namespace Status

open TargetStatus (isFor_blank)

/-- A change that leaves the target of an entry alone. -/
structure SameTarget (f : TargetStatus → TargetStatus) : Prop where
  ns : ∀ t, (f t).ns = t.ns
  apiUrl : ∀ t, (f t).apiUrl = t.apiUrl

theorem SameTarget.isFor {f : TargetStatus → TargetStatus} (hf : SameTarget f) (t : TargetStatus)
    (ns : String) (apiUrl : Option String) : (f t).isFor ns apiUrl = t.isFor ns apiUrl := by
  unfold TargetStatus.isFor
  rw [hf.ns, hf.apiUrl]

variable {f : TargetStatus → TargetStatus} {ns ns' : String} {apiUrl apiUrl' : Option String}
  {l : List TargetStatus}

/-! ### Look-ups -/

/-- The entry of the target itself is the changed one. -/
theorem find?_updateTarget_self (hf : SameTarget f) (ns : String) (apiUrl : Option String)
    (l : List TargetStatus) :
    (updateTarget ns apiUrl f l).find? (·.isFor ns apiUrl)
      = some (f ((l.find? (·.isFor ns apiUrl)).getD (.blank ns apiUrl))) := by
  induction l with
  | nil => simp [updateTarget, hf.isFor, isFor_blank]
  | cons t rest ih =>
    unfold updateTarget
    by_cases h : t.isFor ns apiUrl = true
    · rw [if_pos h]
      simp [hf.isFor, h]
    · rw [if_neg h]
      simpa [h] using ih

/-- The entry of another target stays. -/
theorem find?_updateTarget_of_ne (hf : SameTarget f)
    (hne : ∀ t : TargetStatus, t.isFor ns apiUrl = true → ¬ t.isFor ns' apiUrl' = true)
    (l : List TargetStatus) :
    (updateTarget ns apiUrl f l).find? (·.isFor ns' apiUrl') = l.find? (·.isFor ns' apiUrl') := by
  induction l with
  | nil =>
    have hblank := hne _ (isFor_blank ns apiUrl)
    simp [updateTarget, hf.isFor, hblank]
  | cons t rest ih =>
    unfold updateTarget
    by_cases h : t.isFor ns apiUrl = true
    · have hother := hne t h
      rw [if_pos h]
      simp [hf.isFor, hother]
    · rw [if_neg h, List.find?_cons, List.find?_cons, ih]

/-! ### Places -/

/-- The first entry of a target is changed where it stands. -/
theorem updateTarget_of_findIdx? {i : Nat} (h : l.findIdx? (·.isFor ns apiUrl) = some i) :
    updateTarget ns apiUrl f l = l.modify i f := by
  induction l generalizing i with
  | nil => cases h
  | cons t rest ih =>
    unfold updateTarget
    rw [List.findIdx?_cons] at h
    by_cases ht : t.isFor ns apiUrl = true
    · rw [if_pos ht] at h ⊢
      obtain rfl := Option.some.inj h
      rfl
    · rw [if_neg ht] at h ⊢
      obtain ⟨j, hj, rfl⟩ := Option.map_eq_some_iff.1 h
      rw [ih hj]
      rfl

/-- A target without an entry gets one at the end. -/
theorem updateTarget_of_findIdx?_none (h : l.findIdx? (·.isFor ns apiUrl) = none) :
    updateTarget ns apiUrl f l = l ++ [f (.blank ns apiUrl)] := by
  induction l with
  | nil => rfl
  | cons t rest ih =>
    unfold updateTarget
    rw [List.findIdx?_cons] at h
    by_cases ht : t.isFor ns apiUrl = true
    · rw [if_pos ht] at h
      cases h
    · rw [if_neg ht] at h ⊢
      rw [ih (Option.map_eq_none_iff.1 h)]
      rfl

/-- Every other place keeps its entry. -/
theorem getElem?_updateTarget_of_ne {i : Nat} {t : TargetStatus} (ht : l[i]? = some t)
    (hi : l.findIdx? (·.isFor ns apiUrl) ≠ some i) :
    (updateTarget ns apiUrl f l)[i]? = some t := by
  cases h : l.findIdx? (·.isFor ns apiUrl) with
  | none =>
    rw [updateTarget_of_findIdx?_none h]
    rw [List.getElem?_append_left (List.getElem?_eq_some_iff.1 ht).1, ht]
  | some j =>
    have hij : j ≠ i := fun he => hi (he ▸ h)
    rw [updateTarget_of_findIdx? h, List.getElem?_modify_ne _ _ hij, ht]

/-- The places of another target stay. -/
theorem findIdx?_updateTarget_of_ne (hf : SameTarget f)
    (hne : ∀ t : TargetStatus, t.isFor ns apiUrl = true → ¬ t.isFor ns' apiUrl' = true)
    (l : List TargetStatus) :
    (updateTarget ns apiUrl f l).findIdx? (·.isFor ns' apiUrl')
      = l.findIdx? (·.isFor ns' apiUrl') := by
  induction l with
  | nil =>
    have hnew : ¬ (f (.blank ns apiUrl)).isFor ns' apiUrl' = true := by
      rw [hf.isFor]
      exact hne _ (isFor_blank ns apiUrl)
    show [f (.blank ns apiUrl)].findIdx? _ = none
    rw [List.findIdx?_cons, if_neg hnew]
    rfl
  | cons t rest ih =>
    unfold updateTarget
    by_cases h : t.isFor ns apiUrl = true
    · have hother : ¬ t.isFor ns' apiUrl' = true := hne t h
      have hchanged : ¬ (f t).isFor ns' apiUrl' = true := by rwa [hf.isFor]
      rw [if_pos h, List.findIdx?_cons, List.findIdx?_cons, if_neg hchanged, if_neg hother]
    · rw [if_neg h, List.findIdx?_cons, List.findIdx?_cons, ih]

/-- The entry at the first place of a target is one of it. -/
theorem isFor_of_findIdx? {i : Nat} {t : TargetStatus}
    (h : l.findIdx? (·.isFor ns apiUrl) = some i) (ht : l[i]? = some t) :
    t.isFor ns apiUrl = true := by
  obtain ⟨hlt, hfor, -⟩ := List.findIdx?_eq_some_iff_getElem.1 h
  obtain ⟨-, rfl⟩ := List.getElem?_eq_some_iff.1 ht
  exact hfor

end Status

end SecretSync
