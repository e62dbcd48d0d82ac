import SecretSync.Command.Sync
import SecretSync.Proofs.Resource.StatusTargets

/-!
# `SecretSync.Proofs.Command.Outcomes`: recording the outcomes of a sync

A sync ends with one outcome for every local target, and writes them into the
status one after the other. `Recorded` says what the list of targets is then:
the first entry of each target is changed where it stands, a target without an
entry gets one at the end, in the order of the outcomes, and everything else
stays. `recorded_foldl` proves it of any outcomes for different namespaces.
-/

set_option autoImplicit false

namespace SecretSync

namespace Command

open Status (SameTarget updateTarget)

/-- The entry of a target after an outcome. -/
def SyncOutcome.entry (o : SyncOutcome) (t : TargetStatus) : TargetStatus :=
  match o.2 with
  | .ok secret => { t with secretName := secret.name, error := none }
  | .error e => { t with error := some e.message }

theorem SyncOutcome.sameTarget (o : SyncOutcome) : SameTarget (SyncOutcome.entry o) where
  ns t := by
    unfold SyncOutcome.entry
    split <;> rfl
  apiUrl t := by
    unfold SyncOutcome.entry
    split <;> rfl

theorem recordOutcome_eq (s : Status) (o : SyncOutcome) :
    recordOutcome s o
      = { s with targets := updateTarget o.1 none (SyncOutcome.entry o) s.targets } := by
  obtain ⟨ns, result⟩ := o
  cases result <;> rfl

/-- Outcomes change the targets and nothing else. -/
theorem foldl_recordOutcome (outcomes : List SyncOutcome) (s : Status) :
    outcomes.foldl recordOutcome s
      = { s with
          targets := outcomes.foldl (fun l o => updateTarget o.1 none (SyncOutcome.entry o) l)
            s.targets } := by
  induction outcomes generalizing s with
  | nil => rfl
  | cons o rest ih => rw [List.foldl_cons, List.foldl_cons, ih, recordOutcome_eq]

/-- The targets of a status after some outcomes. -/
structure Recorded (outcomes : List SyncOutcome) (old new : List TargetStatus) : Prop where
  /-- The entry that is read for a target is the one that was read before, with the outcome in
  it. -/
  found : ∀ o ∈ outcomes, new.find? (·.isFor o.1 none)
    = some (SyncOutcome.entry o ((old.find? (·.isFor o.1 none)).getD (.blank o.1 none)))
  /-- It stands where it stood. -/
  changed : ∀ o ∈ outcomes, ∀ i t, old.findIdx? (·.isFor o.1 none) = some i → old[i]? = some t →
    new[i]? = some (SyncOutcome.entry o t)
  /-- Every other entry stays as it is. -/
  kept : ∀ i t, old[i]? = some t →
    (∀ o ∈ outcomes, old.findIdx? (·.isFor o.1 none) ≠ some i) → new[i]? = some t
  /-- What was missing is added in order. -/
  added : new.drop old.length
    = (outcomes.filter fun o => (old.findIdx? (·.isFor o.1 none)).isNone).map
        fun o => SyncOutcome.entry o (.blank o.1 none)
  /-- Targets in other clusters, and those in other namespaces, read as before. -/
  untouched : ∀ ns apiUrl, (clusterAddress apiUrl ≠ "" ∨ ∀ o ∈ outcomes, o.1 ≠ ns) →
    new.find? (·.isFor ns apiUrl) = old.find? (·.isFor ns apiUrl)

/-- No entry of a local target is one of a target in another cluster or namespace. -/
theorem not_isFor_of_ne {ns ns' : String} {apiUrl : Option String}
    (h : clusterAddress apiUrl ≠ "" ∨ ns ≠ ns') (t : TargetStatus)
    (ht : t.isFor ns none = true) : ¬ t.isFor ns' apiUrl = true := by
  intro ht'
  obtain ⟨hns, haddress⟩ := (TargetStatus.isFor_iff t ns none).1 ht
  obtain ⟨hns', haddress'⟩ := (TargetStatus.isFor_iff t ns' apiUrl).1 ht'
  rcases h with h | h
  · exact h (haddress'.symm.trans haddress)
  · exact h (hns.symm.trans hns')

/-- Recording an outcome and then others for other namespaces. -/
theorem Recorded.cons {o : SyncOutcome} {rest : List SyncOutcome} {old new : List TargetStatus}
    (hnew : ∀ o' ∈ rest, o.1 ≠ o'.1)
    (hrest : Recorded rest (updateTarget o.1 none (SyncOutcome.entry o) old) new) :
    Recorded (o :: rest) old new := by
  have hsame := SyncOutcome.sameTarget o
  have hplace : ∀ o' ∈ rest,
      (updateTarget o.1 none (SyncOutcome.entry o) old).findIdx? (·.isFor o'.1 none)
        = old.findIdx? (·.isFor o'.1 none) := fun o' ho' =>
    Status.findIdx?_updateTarget_of_ne hsame (not_isFor_of_ne (.inr (hnew o' ho'))) old
  -- The place of the first outcome is not touched again.
  have hother : ∀ o' ∈ rest, ∀ i t, old[i]? = some t →
      old.findIdx? (·.isFor o.1 none) = some i → old.findIdx? (·.isFor o'.1 none) ≠ some i := by
    intro o' ho' i t ht hi hi'
    exact not_isFor_of_ne (.inr (hnew o' ho')) t (Status.isFor_of_findIdx? hi ht)
      (Status.isFor_of_findIdx? hi' ht)
  have hself : new.find? (·.isFor o.1 none)
      = some (SyncOutcome.entry o ((old.find? (·.isFor o.1 none)).getD (.blank o.1 none))) := by
    rw [hrest.untouched o.1 none (.inr fun o' ho' => (hnew o' ho').symm)]
    exact Status.find?_updateTarget_self hsame o.1 none old
  refine ⟨?_, ?_, ?_, ?_, ?_⟩
  · intro o' ho'
    rcases List.mem_cons.1 ho' with rfl | ho'
    · exact hself
    · rw [hrest.found o' ho',
        Status.find?_updateTarget_of_ne hsame (not_isFor_of_ne (.inr (hnew o' ho')))]
  · intro o' ho' i t hi ht
    rcases List.mem_cons.1 ho' with rfl | ho'
    · refine hrest.kept i _ ?_ ?_
      · rw [Status.updateTarget_of_findIdx? hi, List.getElem?_modify_eq, ht]
        rfl
      · intro o'' ho''
        rw [hplace o'' ho'']
        exact hother o'' ho'' i t ht hi
    · refine hrest.changed o' ho' i t ?_ ?_
      · rw [hplace o' ho']
        exact hi
      · exact Status.getElem?_updateTarget_of_ne ht fun hi' => hother o' ho' i t ht hi' hi
  · intro i t ht hnone
    refine hrest.kept i t ?_ ?_
    · exact Status.getElem?_updateTarget_of_ne ht (hnone o List.mem_cons_self)
    · intro o' ho'
      rw [hplace o' ho']
      exact hnone o' (List.mem_cons_of_mem _ ho')
  · have hfilter : (rest.filter fun o' =>
          ((updateTarget o.1 none (SyncOutcome.entry o) old).findIdx? (·.isFor o'.1 none)).isNone)
        = rest.filter fun o' => (old.findIdx? (·.isFor o'.1 none)).isNone :=
      List.filter_congr fun o' ho' => by rw [hplace o' ho']
    have hadded := hrest.added
    rw [hfilter] at hadded
    cases hi : old.findIdx? (·.isFor o.1 none) with
    | some i =>
      rw [Status.updateTarget_of_findIdx? hi, List.length_modify] at hadded
      rw [List.filter_cons_of_neg (by simp [hi]), hadded]
    | none =>
      have hold : updateTarget o.1 none (SyncOutcome.entry o) old
          = old ++ [SyncOutcome.entry o (.blank o.1 none)] :=
        Status.updateTarget_of_findIdx?_none hi
      -- The new entry stands right behind the old ones, and stays there.
      have hnext : new[old.length]? = some (SyncOutcome.entry o (.blank o.1 none)) := by
        refine hrest.kept old.length _ (by rw [hold]; simp) ?_
        intro o' ho' hat
        rw [hplace o' ho'] at hat
        exact Nat.lt_irrefl _ (List.findIdx?_eq_some_iff_getElem.1 hat).1
      obtain ⟨hlt, hget⟩ := List.getElem?_eq_some_iff.1 hnext
      rw [hold, List.length_append] at hadded
      rw [List.filter_cons_of_pos (by simp [hi]), List.drop_eq_getElem_cons hlt, hget,
        List.map_cons]
      exact congrArg (_ :: ·) hadded
  · intro ns apiUrl hns
    have hfirst : clusterAddress apiUrl ≠ "" ∨ o.1 ≠ ns :=
      hns.imp id fun h => h o List.mem_cons_self
    rw [hrest.untouched ns apiUrl (hns.imp id fun h o' ho' => h o' (List.mem_cons_of_mem _ ho')),
      Status.find?_updateTarget_of_ne hsame (not_isFor_of_ne hfirst)]

theorem recorded_foldl (outcomes : List SyncOutcome) (hdistinct : (outcomes.map Prod.fst).Nodup)
    (old : List TargetStatus) :
    Recorded outcomes old
      (outcomes.foldl (fun l o => updateTarget o.1 none (SyncOutcome.entry o) l) old) := by
  induction outcomes generalizing old with
  | nil =>
    exact ⟨List.forall_mem_nil _, List.forall_mem_nil _, fun i t ht _ => ht, List.drop_length,
      fun ns apiUrl _ => rfl⟩
  | cons o rest ih =>
    obtain ⟨hnew, hdistinct⟩ := List.nodup_cons.1 hdistinct
    refine Recorded.cons ?_ (ih hdistinct _)
    intro o' ho' he
    exact hnew (he ▸ List.mem_map_of_mem ho')

end Command

end SecretSync
