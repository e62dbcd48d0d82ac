import Mathlib.Data.List.Basic
import Mathlib.Data.List.Induction
import SecretSync.Proofs.Resource.StatusTargets

/-!
# `SecretSync.Proofs.Resource.Reports`: many outcomes in one status

A status is a map from targets to outcomes that is kept in a list. The key of a
target is its namespace and the address of its cluster (`targetKey`), and the
list may hold several entries with one key, of which the first counts. A
`TargetReport` is one call that records an outcome.

Everything rests on what one report does: `target?_record` for look-ups,
`getElem?_record` for places and `keys_record` for keys. `reflects_recordAll`
puts together what any sequence of reports does to any status: a look-up gives
the name that was reported last and the outcome that was reported last, the
other entries stay, and the list grows by the keys that are new.
-/

set_option autoImplicit false

namespace SecretSync

/-! ### Keys -/

/-- What targets are told apart by: the namespace and the address of the cluster. No address and the
empty one are the same. -/
def targetKey (ns : String) (apiUrl : Option String) : String × String :=
  (ns, clusterAddress apiUrl)

namespace TargetStatus

/-- The key of the target of an entry. -/
def key (t : TargetStatus) : String × String := targetKey t.ns t.apiUrl

theorem isFor_iff_key (t : TargetStatus) (ns : String) (apiUrl : Option String) :
    t.isFor ns apiUrl = true ↔ t.key = targetKey ns apiUrl := by
  rw [isFor_iff, key, targetKey, targetKey, Prod.mk.injEq]

theorem key_blank (ns : String) (apiUrl : Option String) :
    (blank ns apiUrl).key = targetKey ns apiUrl :=
  (isFor_iff_key _ ns apiUrl).1 (isFor_blank ns apiUrl)

/-- Only the key of a target decides which entries are for it. -/
theorem isFor_congr {ns ns' : String} {apiUrl apiUrl' : Option String}
    (h : targetKey ns apiUrl = targetKey ns' apiUrl') (t : TargetStatus) :
    t.isFor ns apiUrl = t.isFor ns' apiUrl' := by
  rw [Bool.eq_iff_iff, isFor_iff_key, isFor_iff_key, h]

end TargetStatus

/-- No entry is for two targets with different keys. -/
theorem not_isFor_of_key_ne {ns ns' : String} {apiUrl apiUrl' : Option String}
    (h : targetKey ns apiUrl ≠ targetKey ns' apiUrl') (t : TargetStatus)
    (ht : t.isFor ns apiUrl = true) : ¬ t.isFor ns' apiUrl' = true := by
  rw [TargetStatus.isFor_iff_key] at ht ⊢
  exact fun ht' => h (ht.symm.trans ht')

/-! ### Reports -/

/-- What became of a target: its secret has a name, or something went wrong. -/
inductive TargetOutcome where
  | deployed (secretName : String)
  | failed (error : String)
  deriving DecidableEq, Repr

namespace TargetOutcome

/-- The name that an outcome tells. -/
def secretName? : TargetOutcome → Option String
  | .deployed secretName => some secretName
  | .failed _ => none

/-- The error that an outcome tells. -/
def error? : TargetOutcome → Option String
  | .deployed _ => none
  | .failed error => some error

/-- The entry of a target with an outcome in it. -/
def writeTo (o : TargetOutcome) (t : TargetStatus) : TargetStatus :=
  { t with secretName := o.secretName?.getD t.secretName, error := o.error? }

theorem sameTarget_writeTo (o : TargetOutcome) : Status.SameTarget o.writeTo :=
  ⟨fun _ => rfl, fun _ => rfl⟩

end TargetOutcome

/-- The outcome of a target, to be recorded. -/
structure TargetReport where
  ns : String
  apiUrl : Option String := none
  outcome : TargetOutcome
  deriving DecidableEq, Repr

namespace TargetReport

/-- The key of the reported target. -/
def key (r : TargetReport) : String × String := targetKey r.ns r.apiUrl

/-- The entry of the reported target after the report, given the one before. -/
def onto (r : TargetReport) (t? : Option TargetStatus) : TargetStatus :=
  r.outcome.writeTo (t?.getD (.blank r.ns r.apiUrl))

/-- The reports about one target, in order. -/
def about (key : String × String) (reports : List TargetReport) : List TargetReport :=
  reports.filter (·.key = key)

/-- The name that was reported last. -/
def latestName? (reports : List TargetReport) : Option String :=
  (reports.filterMap (·.outcome.secretName?)).getLast?

theorem latestName?_concat (reports : List TargetReport) (r : TargetReport) :
    latestName? (reports ++ [r]) = r.outcome.secretName?.or (latestName? reports) := by
  unfold latestName?
  rw [List.filterMap_append]
  cases h : r.outcome.secretName? <;> simp [h]

end TargetReport

/-- The name of the secret in a target, empty if there is no entry. -/
def TargetStatus.knownName (t? : Option TargetStatus) : String := (t?.map (·.secretName)).getD ""

namespace Status

open TargetReport (about latestName?)
open TargetStatus (knownName isFor_iff_key isFor_congr)

/-- Records one report. -/
def record (s : Status) (r : TargetReport) : Status :=
  match r.outcome with
  | .deployed secretName => s.recordDeployed r.ns r.apiUrl secretName
  | .failed error => s.recordFailed r.ns r.apiUrl error

/-- Records one report after the other. -/
def recordAll (s : Status) (reports : List TargetReport) : Status := reports.foldl record s

/-- The keys of the entries, in order. -/
def keys (s : Status) : List (String × String) := s.targets.map (·.key)

variable (s : Status) (r : TargetReport)

/-! ### One report -/

theorem record_eq :
    s.record r = { s with targets := updateTarget r.ns r.apiUrl r.outcome.writeTo s.targets } := by
  obtain ⟨ns, apiUrl, outcome⟩ := r
  cases outcome <;> rfl

/-- The reported target has the report in the entry that it had before, or in a new one, and every
other target reads as before. -/
theorem target?_record (ns : String) (apiUrl : Option String) :
    (s.record r).target? ns apiUrl
      = if r.key = targetKey ns apiUrl then some (r.onto (s.target? ns apiUrl))
        else s.target? ns apiUrl := by
  rw [record_eq]
  unfold target?
  split
  · rename_i hkey
    have hsame : (fun t : TargetStatus => t.isFor ns apiUrl) = (·.isFor r.ns r.apiUrl) :=
      funext fun t => (isFor_congr hkey t).symm
    rw [hsame]
    exact find?_updateTarget_self r.outcome.sameTarget_writeTo r.ns r.apiUrl s.targets
  · rename_i hkey
    exact find?_updateTarget_of_ne r.outcome.sameTarget_writeTo (not_isFor_of_key_ne hkey) s.targets

theorem keys_updateTarget (targets : List TargetStatus) :
    (updateTarget r.ns r.apiUrl r.outcome.writeTo targets).map (·.key)
      = if r.key ∈ targets.map (·.key) then targets.map (·.key)
        else targets.map (·.key) ++ [r.key] := by
  induction targets with
  | nil =>
    show [(TargetStatus.blank r.ns r.apiUrl).key] = _
    rw [TargetStatus.key_blank]
    rfl
  | cons t rest ih =>
    unfold updateTarget
    by_cases ht : t.isFor r.ns r.apiUrl = true
    · have hkey : r.key = t.key := ((isFor_iff_key t _ _).1 ht).symm
      rw [if_pos ht, List.map_cons, List.map_cons, if_pos (hkey ▸ List.mem_cons_self)]
      rfl
    · have hkey : r.key ≠ t.key := fun h => ht ((isFor_iff_key t _ _).2 h.symm)
      rw [if_neg ht, List.map_cons, ih, List.map_cons]
      simp only [List.mem_cons, hkey, false_or]
      split <;> rfl

/-- A report adds the key of its target if no entry has it, and takes none away. -/
theorem keys_record :
    (s.record r).keys = if r.key ∈ s.keys then s.keys else s.keys ++ [r.key] := by
  rw [record_eq]
  exact keys_updateTarget r s.targets

/-- An entry stays where it is, and stays as it is if it is not the first of the reported target. -/
theorem getElem?_record {i : Nat} {t : TargetStatus} (h : s.targets[i]? = some t) :
    ((s.record r).targets[i]? = some t ∨ (s.record r).targets[i]? = some (r.outcome.writeTo t)) ∧
      ((t.key = r.key → t.key ∈ s.keys.take i) → (s.record r).targets[i]? = some t) := by
  rw [record_eq]
  by_cases hfirst : s.targets.findIdx? (·.isFor r.ns r.apiUrl) = some i
  · have hchanged : (updateTarget r.ns r.apiUrl r.outcome.writeTo s.targets)[i]?
        = some (r.outcome.writeTo t) := by
      rw [updateTarget_of_findIdx? hfirst, List.getElem?_modify_eq, h]
      rfl
    refine ⟨.inr hchanged, fun hother => ?_⟩
    -- The first entry of the target has none of its key in front.
    have hkey : t.key = r.key := (isFor_iff_key t _ _).1 (isFor_of_findIdx? hfirst h)
    obtain ⟨hlt, -, hbefore⟩ := List.findIdx?_eq_some_iff_getElem.1 hfirst
    obtain ⟨j, hj, hget⟩ := List.mem_take_iff_getElem.1 (hother hkey)
    have hji : j < i := by omega
    have hget : (s.targets[j]).key = t.key := by
      unfold keys at hget
      rwa [List.getElem_map] at hget
    exact absurd ((isFor_iff_key _ _ _).2 (hget.trans hkey)) (hbefore j hji)
  · have hkept := getElem?_updateTarget_of_ne (f := r.outcome.writeTo) h hfirst
    exact ⟨.inl hkept, fun _ => hkept⟩

/-! ### Any number of reports -/

variable {s} {reports : List TargetReport}

theorem recordAll_cons (s : Status) (r : TargetReport) (reports : List TargetReport) :
    s.recordAll (r :: reports) = (s.record r).recordAll reports := rfl

theorem conditions_recordAll (s : Status) (reports : List TargetReport) :
    (s.recordAll reports).conditions = s.conditions := by
  induction reports generalizing s with
  | nil => rfl
  | cons r rest ih => rw [recordAll_cons, ih, record_eq]

/-- What a look-up gives: the reports about its target, put one after the other into the entry that
was there. -/
theorem target?_recordAll (s : Status) (reports : List TargetReport) (ns : String)
    (apiUrl : Option String) :
    (s.recordAll reports).target? ns apiUrl
      = (about (targetKey ns apiUrl) reports).foldl (fun t? r => some (r.onto t?))
          (s.target? ns apiUrl) := by
  unfold about
  -- A report about another target is passed over on both sides.
  rw [List.foldl_filter]
  simp only [decide_eq_true_iff]
  induction reports generalizing s with
  | nil => rfl
  | cons r rest ih => rw [recordAll_cons, ih, List.foldl_cons, target?_record]

/-- Reports that are put into an entry leave the name that was reported last. -/
theorem knownName_foldl (t? : Option TargetStatus) (reports : List TargetReport) :
    knownName (reports.foldl (fun t? r => some (r.onto t?)) t?)
      = (latestName? reports).getD (knownName t?) := by
  -- From the right, since a name counts until the next one is reported.
  induction reports using List.reverseRecOn with
  | nil => rfl
  | append_singleton reports r ih =>
    have honto : ∀ t? : Option TargetStatus,
        knownName (some (r.onto t?)) = r.outcome.secretName?.getD (knownName t?) := by
      intro t?
      cases t? <;> rfl
    rw [List.foldl_concat, honto, ih, TargetReport.latestName?_concat]
    cases r.outcome.secretName? <;> rfl

theorem keys_recordAll (s : Status) (reports : List TargetReport) :
    ∃ added, (s.recordAll reports).keys = s.keys ++ added ∧ added.Nodup ∧
      ∀ k, k ∈ added ↔ k ∉ s.keys ∧ ∃ r ∈ reports, r.key = k := by
  induction reports generalizing s with
  | nil => exact ⟨[], (List.append_nil _).symm, List.nodup_nil, by simp⟩
  | cons r rest ih =>
    obtain ⟨added, hkeys, hnodup, hmem⟩ := ih (s.record r)
    rw [keys_record] at hkeys hmem
    rw [recordAll_cons]
    by_cases hold : r.key ∈ s.keys
    · rw [if_pos hold] at hkeys hmem
      refine ⟨added, hkeys, hnodup, fun k => ?_⟩
      rw [hmem, List.exists_mem_cons_iff]
      refine and_congr_right fun hnew => ?_
      exact (or_iff_right fun he : r.key = k => hnew (he ▸ hold)).symm
    · -- The key of the first report is new, and the later ones do not add it again.
      rw [if_neg hold] at hkeys hmem
      simp only [List.mem_append, List.mem_singleton, not_or] at hmem
      refine ⟨r.key :: added, ?_, ?_, fun k => ?_⟩
      · rw [hkeys, List.append_assoc]
        rfl
      · exact List.nodup_cons.2 ⟨fun h => ((hmem _).1 h).1.2 rfl, hnodup⟩
      · rw [List.mem_cons, hmem, List.exists_mem_cons_iff]
        constructor
        · rintro (rfl | ⟨⟨hnew, -⟩, hreported⟩)
          · exact ⟨hold, .inl rfl⟩
          · exact ⟨hnew, .inr hreported⟩
        · rintro ⟨hnew, hreported⟩
          by_cases hk : k = r.key
          · exact .inl hk
          · exact .inr ⟨⟨hnew, hk⟩, hreported.resolve_left fun he => hk he.symm⟩

/-- An entry keeps its place and its target. -/
theorem place_recordAll {i : Nat} {t : TargetStatus} (h : s.targets[i]? = some t) :
    ∃ t', (s.recordAll reports).targets[i]? = some t' ∧ t'.ns = t.ns ∧ t'.apiUrl = t.apiUrl := by
  induction reports generalizing s t with
  | nil => exact ⟨t, h, rfl, rfl⟩
  | cons r rest ih =>
    rcases (getElem?_record s r h).1 with hsame | hchanged
    · exact ih hsame
    · exact ih (t := r.outcome.writeTo t) hchanged

/-- An entry of a target that is not reported, or that has an earlier entry, stays as it is. -/
theorem getElem?_recordAll {i : Nat} {t : TargetStatus} (h : s.targets[i]? = some t)
    (hother : ∀ r ∈ reports, t.key = r.key → t.key ∈ s.keys.take i) :
    (s.recordAll reports).targets[i]? = some t := by
  induction reports generalizing s with
  | nil => exact h
  | cons r rest ih =>
    have hkept := (getElem?_record s r h).2 (hother r List.mem_cons_self)
    refine ih hkept fun r' hr' hkey => ?_
    -- The keys in front of the place are the same after the first report.
    have htake : (s.record r).keys.take i = s.keys.take i := by
      have hi : i ≤ s.keys.length := by
        unfold keys
        rw [List.length_map]
        exact Nat.le_of_lt (List.getElem?_eq_some_iff.1 h).1
      rw [keys_record]
      split
      · rfl
      · exact List.take_append_of_le_length hi
    rw [htake]
    exact hother r' (List.mem_cons_of_mem _ hr') hkey

/-- The status `new` is `old` with some reports recorded in it. -/
structure Reflects (old : Status) (reports : List TargetReport) (new : Status) : Prop where
  /-- A target without a report reads as before. If it had no entry, it has none. -/
  unreported : ∀ ns apiUrl, about (targetKey ns apiUrl) reports = [] →
    new.target? ns apiUrl = old.target? ns apiUrl
  /-- A reported target has an entry, with the name that was reported last, or else the one that was
  there, and with the error that its last report tells. -/
  reported : ∀ ns apiUrl, ∀ last ∈ (about (targetKey ns apiUrl) reports).getLast?,
    ∃ t, new.target? ns apiUrl = some t ∧
      t.secretName = (latestName? (about (targetKey ns apiUrl) reports)).getD
        (knownName (old.target? ns apiUrl)) ∧
      t.error = last.outcome.error?
  conditions : new.conditions = old.conditions
  /-- Every entry keeps its place and its target. -/
  placed : ∀ (i : Nat) (t : TargetStatus), old.targets[i]? = some t →
    ∃ t', new.targets[i]? = some t' ∧ t'.ns = t.ns ∧ t'.apiUrl = t.apiUrl
  /-- All but the first entries of reported targets stay as they are. -/
  kept : ∀ (i : Nat) (t : TargetStatus), old.targets[i]? = some t →
    (∀ r ∈ reports, t.key = r.key → t.key ∈ old.keys.take i) → new.targets[i]? = some t
  /-- There is one new entry for every target that was reported and had none. -/
  grown : ∃ added, new.keys = old.keys ++ added ∧ added.Nodup ∧
    ∀ k, k ∈ added ↔ k ∉ old.keys ∧ ∃ r ∈ reports, r.key = k
  /-- One entry for each target is kept so. -/
  distinct : old.keys.Nodup → new.keys.Nodup

/-- Any reports, in any order and about any targets, are read back from any status that they are
recorded in. -/
theorem reflects_recordAll (s : Status) (reports : List TargetReport) :
    s.Reflects reports (s.recordAll reports) := by
  have hgrown := keys_recordAll s reports
  refine
    { unreported := ?_, reported := ?_, conditions := conditions_recordAll s reports,
      placed := fun _ _ => place_recordAll, kept := fun _ _ => getElem?_recordAll,
      grown := hgrown, distinct := ?_ }
  · intro ns apiUrl hnone
    rw [target?_recordAll, hnone]
    rfl
  · intro ns apiUrl last hlast
    obtain ⟨front, hfront⟩ := List.getLast?_eq_some_iff.1 hlast
    have hname := knownName_foldl (s.target? ns apiUrl) (about (targetKey ns apiUrl) reports)
    rw [target?_recordAll]
    rw [hfront, List.foldl_concat] at hname ⊢
    exact ⟨_, rfl, hname, rfl⟩
  · intro hdistinct
    obtain ⟨added, hkeys, hnodup, hmem⟩ := hgrown
    rw [hkeys]
    refine List.nodup_append.2 ⟨hdistinct, hnodup, ?_⟩
    rintro k hold k' hnew rfl
    exact ((hmem k).1 hnew).1 hold

end Status

end SecretSync
