import Mathlib.Data.List.Induction
import Mathlib.Data.List.Nodup
import SecretSync.Proofs.Command.SyncRun
import SecretSync.Proofs.Resource.Reports
import SecretSync.Validation

/-!
# `SecretSync.Proofs.Validation.DistinctTargets`: no target twice

The check of a new resource refuses a second target with the key of an earlier
one, the handlers of a sync are for the local targets, and the status tells
targets apart by their keys. These three mean the same key.

The check walks over the targets with the places it has seen in its hand. A
place leaves out the empty address where the key of the status has it for the
local cluster, and still both tell the same targets apart (`place_eq_iff`).
`checkTargets_append` says that it gets through every beginning that is in
order (`Scanned`), and `scanned_or_stop` that every list of targets is in order
or has a first target at which the walk stops. `checkCreate_targets` draws the
conclusions for a whole resource.
-/

set_option autoImplicit false

namespace SecretSync

open Program (Server)

/-- The key of a target of a specification. -/
def TargetSpec.key (t : TargetSpec) : String × String := targetKey t.ns t.apiUrl

/-- A target is local if the cluster of its key is the local one. -/
theorem TargetSpec.isLocal_iff (t : TargetSpec) :
    t.isLocal = true ↔ clusterAddress t.apiUrl = "" := by
  unfold isLocal clusterAddress
  cases t.apiUrl with
  | none => exact iff_of_true rfl rfl
  | some url => exact String.isEmpty_iff

namespace Validation

/-- The complaint about a target that is listed before. -/
def repeated (t : TargetSpec) : ValidationError :=
  .duplicateTarget t.ns (t.apiUrl.filter (!·.isEmpty))

/-- The place that the check looks for is the key by which the status tells targets apart. -/
theorem place_eq_iff (a b : TargetSpec) : place a = place b ↔ a.key = b.key := by
  unfold place TargetSpec.key targetKey
  rw [Prod.mk.injEq, Prod.mk.injEq, filter_eq_iff_clusterAddress]

theorem place_mem_iff (t : TargetSpec) (targets : List TargetSpec) :
    place t ∈ targets.map place ↔ t.key ∈ targets.map (·.key) := by
  simp only [List.mem_map, place_eq_iff]

/-! ### The walk over the targets -/

/-- The namespace of a target is valid. -/
def ValidNs (t : TargetSpec) : Prop := checkNamespace "spec.targets.namespace" t.ns = .ok ()

/-- The walk gets through these targets. -/
structure Scanned (targets : List TargetSpec) : Prop where
  valid : ∀ t ∈ targets, ValidNs t
  distinct : (targets.map (·.key)).Nodup

/-- The target `t` is the first one with the key of an earlier target, and all namespaces up to its
own are valid. -/
def FirstRepeated (targets : List TargetSpec) (t : TargetSpec) : Prop :=
  ∃ before after, targets = before ++ t :: after ∧ Scanned before ∧ ValidNs t ∧
    t.key ∈ before.map (·.key)

variable {seen before targets : List TargetSpec} {t : TargetSpec}

/-- One step of the walk. -/
theorem checkTargets_cons (hvalid : ValidNs t) (seen rest : List TargetSpec) :
    checkTargets (seen.map place) (t :: rest)
      = if t.key ∈ seen.map (·.key) then .error (repeated t)
        else checkTargets ((t :: seen).map place) rest := by
  rw [checkTargets, hvalid]
  by_cases h : t.key ∈ seen.map (·.key)
  · rw [if_pos h, if_pos ((place_mem_iff t seen).2 h)]
    rfl
  · rw [if_neg h, if_neg fun hplace => h ((place_mem_iff t seen).1 hplace)]
    rfl

theorem checkTargets_cons_of_invalid {e : ValidationError}
    (h : checkNamespace "spec.targets.namespace" t.ns = .error e)
    (seen : List (String × Option String)) (rest : List TargetSpec) :
    checkTargets seen (t :: rest) = .error e := by
  rw [checkTargets, h]
  rfl

theorem Scanned.concat (h : Scanned before) (hvalid : ValidNs t)
    (hnew : t.key ∉ before.map (·.key)) : Scanned (before ++ [t]) := by
  refine ⟨?_, ?_⟩
  · intro u hu
    rcases List.mem_append.1 hu with hu | hu
    · exact h.valid u hu
    · exact List.mem_singleton.1 hu ▸ hvalid
  · rw [List.map_append, List.map_singleton, ← List.concat_eq_append]
    exact h.distinct.concat hnew

theorem Scanned.of_concat (h : Scanned (before ++ [t])) :
    Scanned before ∧ ValidNs t ∧ t.key ∉ before.map (·.key) := by
  have hdistinct := h.distinct
  rw [List.map_append, List.nodup_append] at hdistinct
  obtain ⟨hbefore, -, hapart⟩ := hdistinct
  refine ⟨⟨fun u hu => h.valid u (List.mem_append_left _ hu), hbefore⟩,
    h.valid t (List.mem_append_right _ List.mem_cons_self), fun hold => ?_⟩
  exact hapart _ hold _ (List.mem_map_of_mem List.mem_cons_self) rfl

/-- The walk gets through a beginning that is in order. -/
theorem checkTargets_append (h : Scanned before) (rest : List TargetSpec) :
    checkTargets [] (before ++ rest) = checkTargets (before.reverse.map place) rest := by
  -- The walk puts the place of each target in front of those it has seen.
  induction before using List.reverseRecOn generalizing rest with
  | nil => rfl
  | append_singleton before t ih =>
    obtain ⟨hbefore, hvalid, hnew⟩ := h.of_concat
    have hnew : t.key ∉ before.reverse.map (·.key) := by
      rwa [List.map_reverse, List.mem_reverse]
    rw [List.append_assoc, ih hbefore, List.singleton_append, checkTargets_cons hvalid,
      if_neg hnew, List.reverse_concat]

/-- Either all targets are in order, or there is a first one that is not. -/
theorem scanned_or_stop (targets : List TargetSpec) :
    Scanned targets ∨ ∃ before t after, targets = before ++ t :: after ∧ Scanned before ∧
      (ValidNs t → t.key ∈ before.map (·.key)) := by
  -- From the right: a last target is only looked at if all others are in order.
  induction targets using List.reverseRecOn with
  | nil => exact .inl ⟨fun _ h => absurd h List.not_mem_nil, List.nodup_nil⟩
  | append_singleton front t ih =>
    rcases ih with hfront | ⟨before, u, after, rfl, hbefore, hstop⟩
    · by_cases hbad : ValidNs t → t.key ∈ front.map (·.key)
      · exact .inr ⟨front, t, [], rfl, hfront, hbad⟩
      · rw [Classical.not_imp] at hbad
        exact .inl (hfront.concat hbad.1 hbad.2)
    · exact .inr ⟨before, u, after ++ [t], by simp, hbefore, hstop⟩

theorem checkTargets_of_firstRepeated (h : FirstRepeated targets t) :
    checkTargets [] targets = .error (repeated t) := by
  obtain ⟨before, after, rfl, hbefore, hvalid, hold⟩ := h
  have hold : t.key ∈ before.reverse.map (·.key) := by
    rwa [List.map_reverse, List.mem_reverse]
  rw [checkTargets_append hbefore, checkTargets_cons hvalid, if_pos hold]

theorem checkTargets_of_scanned (h : Scanned targets) : checkTargets [] targets = .ok () := by
  have happend := checkTargets_append h []
  rwa [List.append_nil] at happend

/-- A text that is not a name is a complaint about a name. -/
theorem checkText_error {maxBytes : Nat} {isValid : List Char → Bool}
    {rule field value : String} {e : ValidationError}
    (h : checkText maxBytes isValid rule field value = .error e) :
    ∃ reason, e = .invalidName field value reason := by
  unfold checkText at h
  split_ifs at h <;> exact ⟨_, (Except.error.inj h).symm⟩

/-- What the walk over the targets complains about. -/
theorem checkTargets_cases (targets : List TargetSpec) :
    (checkTargets [] targets = .ok () ∧ Scanned targets) ∨
      (∃ t, checkTargets [] targets = .error (repeated t) ∧ FirstRepeated targets t) ∨
      ∃ value reason, checkTargets [] targets
        = .error (.invalidName "spec.targets.namespace" value reason) := by
  rcases scanned_or_stop targets with h | ⟨before, t, after, rfl, hbefore, hstop⟩
  · exact .inl ⟨checkTargets_of_scanned h, h⟩
  · cases hns : checkNamespace "spec.targets.namespace" t.ns with
    | ok =>
      have hfirst : FirstRepeated (before ++ t :: after) t :=
        ⟨before, after, rfl, hbefore, hns, hstop hns⟩
      exact .inr (.inl ⟨t, checkTargets_of_firstRepeated hfirst, hfirst⟩)
    | error e =>
      obtain ⟨reason, rfl⟩ := checkText_error hns
      refine .inr (.inr ⟨t.ns, reason, ?_⟩)
      rw [checkTargets_append hbefore, checkTargets_cons_of_invalid hns]

/-- The targets are refused for a repetition if there is one, and the first is named. -/
theorem checkTargets_duplicate_iff (ns : String) (apiUrl : Option String) :
    checkTargets [] targets = .error (.duplicateTarget ns apiUrl) ↔
      ∃ t, FirstRepeated targets t ∧ repeated t = .duplicateTarget ns apiUrl := by
  constructor
  · intro h
    rcases checkTargets_cases targets with ⟨hok, -⟩ | ⟨t, herror, hfirst⟩ | ⟨value, reason, herror⟩
    · rw [hok] at h
      cases h
    · rw [herror] at h
      exact ⟨t, hfirst, Except.error.inj h⟩
    · rw [herror] at h
      cases h
  · rintro ⟨t, hfirst, heq⟩
    rw [checkTargets_of_firstRepeated hfirst, heq]

/-! ### The other checks -/

theorem checkDataSources_error {spec : RemoteSecretSpec} {e : ValidationError}
    (h : checkDataSources spec = .error e) : e = .conflictingDataSources := by
  unfold checkDataSources at h
  split_ifs at h
  exact (Except.error.inj h).symm

theorem checkGenerateName_error {field value : String} {e : ValidationError}
    (h : checkGenerateName field value = .error e) :
    ∃ reason, e = .invalidName field value reason := by
  unfold checkGenerateName at h
  cases hname : checkName field (completedPrefix value) with
  | ok =>
    rw [hname] at h
    cases h
  | error e' =>
    obtain ⟨reason, rfl⟩ := checkText_error hname
    rw [hname] at h
    exact ⟨reason, (Except.error.inj h).symm⟩

/-- Checks the prefix, where it is given. -/
def checkPrefix (spec : SecretSpec) : Except ValidationError Unit :=
  if spec.generateName.isEmpty then .ok ()
  else checkGenerateName "spec.secret.generateName" spec.generateName

theorem checkSecretNames_eq (spec : SecretSpec) :
    checkSecretNames spec
      = if spec.name.isEmpty then checkPrefix spec
        else (checkName "spec.secret.name" spec.name).bind fun _ => checkPrefix spec := by
  unfold checkSecretNames checkPrefix
  cases spec.name.isEmpty <;> cases spec.generateName.isEmpty <;> rfl

theorem checkSecretNames_error {spec : SecretSpec} {e : ValidationError}
    (h : checkSecretNames spec = .error e) :
    ∃ field value reason, e = .invalidName field value reason := by
  have hprefix : checkPrefix spec = .error e → ∃ field value reason,
      e = .invalidName field value reason := by
    intro h
    unfold checkPrefix at h
    split_ifs at h
    exact ⟨_, _, checkGenerateName_error h⟩
  rw [checkSecretNames_eq] at h
  split_ifs at h
  · exact hprefix h
  · cases hname : checkName "spec.secret.name" spec.name with
    | ok =>
      rw [hname] at h
      exact hprefix h
    | error e' =>
      rw [hname] at h
      cases h
      exact ⟨_, _, checkText_error hname⟩

/-- The checks of a new resource, one after the other. -/
theorem checkCreate_of_ok {r : RemoteSecret} (hsources : checkDataSources r.spec = .ok ())
    (hnames : checkSecretNames r.spec.secret = .ok ()) :
    checkCreate r = checkTargets [] r.spec.targets := by
  unfold checkCreate
  rw [hsources, hnames]
  rfl

/-! ### The whole check -/

/-- The targets of a resource are told apart, by the handlers of a sync and by every status. -/
structure Distinguished (r : RemoteSecret) : Prop where
  /-- Nothing is asked of the cluster for the handlers. There is none only if no target is local. -/
  handlers : ∀ owner, r.key? = some owner →
    ∀ {σ : Type} (server : Server clusterInterface σ) (s : σ),
      r.localHandlers.steps server s = [] ∧ (r.localHandlers.run server s).state = s ∧
        (r.localHandlers.run server s).result
          = if r.localTargets = [] then .error RemoteSecret.noLocalTargets
            else .ok (r.handlers owner)
  /-- There is one handler for each local target, and no two are for one namespace. -/
  namespaces : ∀ owner, (r.handlers owner).map (·.target.ns) = r.localTargets.map (·.ns) ∧
    ((r.handlers owner).map (·.target.ns)).Nodup
  /-- The outcome of a target is not recorded in the entry of another one. -/
  entries : ∀ (i j : Nat) (a b : TargetSpec), i ≠ j →
    r.spec.targets[i]? = some a → r.spec.targets[j]? = some b →
    ∀ (s : Status) (report : TargetReport), report.key = a.key →
      (s.record report).target? b.ns b.apiUrl = s.target? b.ns b.apiUrl

/-- Local targets with different keys have different namespaces. -/
theorem nodup_ns_localTargets {r : RemoteSecret} (h : (r.spec.targets.map (·.key)).Nodup) :
    (r.localTargets.map (·.ns)).Nodup := by
  have hlocal : r.localTargets.map (·.key)
      = (r.localTargets.map (·.ns)).map fun ns => (ns, "") := by
    rw [List.map_map]
    refine List.map_congr_left fun t ht => ?_
    have haddress : clusterAddress t.apiUrl = "" := t.isLocal_iff.1 (List.mem_filter.1 ht).2
    unfold TargetSpec.key targetKey
    rw [haddress]
    rfl
  have hkeys : (r.localTargets.map (·.key)).Nodup :=
    h.sublist (List.Sublist.map _ List.filter_sublist)
  rw [hlocal] at hkeys
  exact hkeys.of_map _

theorem distinguished_of_scanned {r : RemoteSecret} (h : Scanned r.spec.targets) :
    Distinguished r := by
  refine ⟨?_, ?_, ?_⟩
  · intro owner hkey σ server s
    rw [RemoteSecret.localHandlers_eq hkey, Program.steps_reporting, Program.run_reporting]
    exact ⟨rfl, rfl, rfl⟩
  · intro owner
    rw [RemoteSecret.map_ns_handlers]
    exact ⟨rfl, nodup_ns_localTargets h.distinct⟩
  · intro i j a b hij ha hb s report hreport
    have hkey : report.key ≠ targetKey b.ns b.apiUrl := by
      intro heq
      have hlt : i < (r.spec.targets.map (·.key)).length := by
        rw [List.length_map]
        exact (List.getElem?_eq_some_iff.1 ha).1
      -- A key has one place.
      refine hij ((List.getElem?_inj hlt h.distinct).1 ?_)
      rw [List.getElem?_map, List.getElem?_map, ha, hb, Option.map_some, Option.map_some,
        ← hreport, heq]
      rfl
    rw [Status.target?_record, if_neg hkey]

/-- A resource is refused for a target that is listed twice exactly if its data has one source, its
names are valid, and a first target has the key of an earlier one, which is the one that is named.
A resource that is admitted has all its targets told apart. -/
theorem checkCreate_targets (r : RemoteSecret) :
    (∀ ns apiUrl, checkCreate r = .error (.duplicateTarget ns apiUrl) ↔
      checkDataSources r.spec = .ok () ∧ checkSecretNames r.spec.secret = .ok () ∧
        ∃ t, FirstRepeated r.spec.targets t ∧ ns = t.ns ∧ apiUrl = t.apiUrl.filter (!·.isEmpty)) ∧
    (checkCreate r = .ok () → Distinguished r) := by
  -- What the earlier checks complain about is never a target that is listed twice.
  cases hsources : checkDataSources r.spec with
  | error e =>
    have hcreate : checkCreate r = .error .conflictingDataSources := by
      unfold checkCreate
      rw [hsources, checkDataSources_error hsources]
      rfl
    simp [hcreate]
  | ok =>
    cases hnames : checkSecretNames r.spec.secret with
    | error e =>
      obtain ⟨field, value, reason, rfl⟩ := checkSecretNames_error hnames
      have hcreate : checkCreate r = .error (.invalidName field value reason) := by
        unfold checkCreate
        rw [hsources, hnames]
        rfl
      simp [hcreate]
    | ok =>
      rw [checkCreate_of_ok hsources hnames]
      refine ⟨fun ns apiUrl => ?_, fun hok => ?_⟩
      · rw [checkTargets_duplicate_iff]
        simp [repeated, eq_comm]
      · rcases checkTargets_cases r.spec.targets with ⟨-, h⟩ | ⟨t, herror, -⟩ | ⟨_, _, herror⟩
        · exact distinguished_of_scanned h
        · rw [hok] at herror
          cases herror
        · rw [hok] at herror
          cases herror

/-- A resource with one namespace in two clusters. -/
def inTwoClusters : RemoteSecret where
  metadata := { name := some "creds", ns := some "ops" }
  spec := { targets := [⟨"team-a", none, none⟩, ⟨"team-a", some "https://edge:6443", none⟩,
    ⟨"team-b", some "", none⟩] }

theorem checkCreate_targets_inTwoClusters :
    checkCreate inTwoClusters = .ok () ∧ inTwoClusters.key? = some ⟨"ops", "creds"⟩ ∧
      Distinguished inTwoClusters ∧
      (inTwoClusters.handlers ⟨"ops", "creds"⟩).map (·.target.ns) = ["team-a", "team-b"] :=
  ⟨rfl, rfl, (checkCreate_targets inTwoClusters).2 rfl, rfl⟩

end Validation

end SecretSync
