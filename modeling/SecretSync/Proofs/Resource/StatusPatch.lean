import SecretSync.Api.RemoteSecrets
import SecretSync.Api.Server
import SecretSync.Proofs.Json.Fields

/-!
# `SecretSync.Proofs.Resource.StatusPatch`: recording targets in a document

The targets of a resource are recorded by a merge patch of its document.
`patchedStatus_targetsPatch` says what the patch does: it sets one field of the
status and nothing else, so every other field of the document and of its
status stays as it was written (`field?_patchedStatus`,
`field?_status_patchedStatus`).

`ofDocument?_patchedStatus` reads the result. A document that was a resource
before is that resource with the new targets.
-/

set_option autoImplicit false

namespace SecretSync

namespace Json

variable {name name' : String} {value : Json} {fields : List (String × Json)}

/-! ### Fields -/

/-- How often a name occurs among fields. -/
def occurrences (name : String) (fields : List (String × Json)) : Nat :=
  (fields.filter fun f => f.1 == name).length

theorem occurrences_cons_self (value : Json) (fields : List (String × Json)) :
    occurrences name ((name, value) :: fields) = occurrences name fields + 1 := by
  unfold occurrences
  rw [List.filter_cons_of_pos (by simp)]
  rfl

theorem occurrences_cons_of_ne {f : String × Json} (h : f.1 ≠ name)
    (fields : List (String × Json)) : occurrences name (f :: fields) = occurrences name fields := by
  unfold occurrences
  rw [List.filter_cons_of_neg (by simpa using h)]

theorem findField_of_occurrences (h : occurrences name fields = 0) :
    findField name fields = none := by
  induction fields with
  | nil => rfl
  | cons f rest ih =>
    by_cases hf : f.1 = name
    · subst hf
      rw [occurrences_cons_self] at h
      omega
    · rw [occurrences_cons_of_ne hf] at h
      rw [findField_cons, ih h, if_neg hf]
      rfl

/-- Setting a field leaves the fields of other names as they are. -/
theorem findField_setField_of_ne (hne : name' ≠ name) (value : Json)
    (fields : List (String × Json)) :
    findField name' (setField name value fields) = findField name' fields := by
  induction fields with
  | nil =>
    rw [setField, findField_cons, if_neg hne.symm]
    rfl
  | cons f rest ih =>
    unfold setField
    by_cases hf : f.1 = name
    · have hother : f.1 ≠ name' := fun he => hne (he.symm.trans hf)
      rw [if_pos hf, findField_cons, findField_cons, if_neg hne.symm, if_neg hother]
    · rw [if_neg hf, findField_cons, findField_cons, ih]

/-- A field that was set is found, unless a later one of the same name hides it. -/
theorem findField_setField_self (h : occurrences name fields ≤ 1) (value : Json) :
    findField name (setField name value fields) = some value := by
  induction fields with
  | nil =>
    rw [setField, findField_cons, if_pos rfl]
    rfl
  | cons f rest ih =>
    unfold setField
    by_cases hf : f.1 = name
    · subst hf
      rw [occurrences_cons_self] at h
      rw [if_pos rfl, findField_cons, findField_of_occurrences (by omega), if_pos rfl]
      rfl
    · rw [occurrences_cons_of_ne hf] at h
      rw [if_neg hf, findField_cons, ih h]
      rfl

theorem occurrences_setField_self (name : String) (value : Json) (fields : List (String × Json)) :
    occurrences name (setField name value fields) = max (occurrences name fields) 1 := by
  induction fields with
  | nil => exact occurrences_cons_self value []
  | cons f rest ih =>
    unfold setField
    by_cases hf : f.1 = name
    · subst hf
      rw [if_pos rfl, occurrences_cons_self, occurrences_cons_self]
      omega
    · rw [if_neg hf, occurrences_cons_of_ne hf, occurrences_cons_of_ne hf, ih]

theorem occurrences_setField_of_ne (hne : name ≠ name') (value : Json)
    (fields : List (String × Json)) :
    occurrences name' (setField name value fields) = occurrences name' fields := by
  induction fields with
  | nil => exact occurrences_cons_of_ne hne []
  | cons f rest ih =>
    unfold setField
    by_cases hf : f.1 = name
    · have hother : f.1 ≠ name' := fun he => hne (hf.symm.trans he)
      rw [if_pos hf, occurrences_cons_of_ne hne, occurrences_cons_of_ne hother]
    · rw [if_neg hf]
      by_cases hf' : f.1 = name'
      · subst hf'
        rw [occurrences_cons_self, occurrences_cons_self, ih]
      · rw [occurrences_cons_of_ne hf', occurrences_cons_of_ne hf', ih]

/-- Setting a field does not make a name occur twice. -/
theorem occurrences_setField_le (name : String) (value : Json)
    (h : occurrences name' fields ≤ 1) : occurrences name' (setField name value fields) ≤ 1 := by
  by_cases hne : name = name'
  · subst hne
    rw [occurrences_setField_self]
    omega
  · rw [occurrences_setField_of_ne hne]
    exact h

theorem eachOnce_setField {names : List String} (name : String) (value : Json)
    (h : Document.eachOnce names fields = true) :
    Document.eachOnce names (setField name value fields) = true := by
  unfold Document.eachOnce at h ⊢
  rw [List.all_eq_true] at h ⊢
  intro name' hname'
  exact decide_eq_true (occurrences_setField_le name value (of_decide_eq_true (h name' hname')))

/-- Fields that are each given once. -/
theorem occurrences_le_of_eachOnce {names : List String} (h : Document.eachOnce names fields = true)
    (hname : name ∈ names) : occurrences name fields ≤ 1 := by
  unfold Document.eachOnce at h
  exact of_decide_eq_true (List.all_eq_true.1 h name hname)

/-- What a patch with one field makes of a document. -/
theorem mergePatch_single (document value : Json) (name : String) (hvalue : value.isNull = false) :
    mergePatch document (.obj [(name, value)])
      = .obj (setField name (mergePatch ((findField name document.fieldsOf).getD .null) value)
          document.fieldsOf) := by
  simp [mergePatch, mergeFields, hvalue]

end Json

/-! ### Recording targets -/

open Json (findField setField fieldsOf)

/-- The status of a document as it is written, null if there is none. -/
def Json.statusPart (document : Json) : Json := (findField "status" document.fieldsOf).getD .null

namespace ApiServer

open RemoteSecretApi (targetsPatch)

/-- Recording targets sets them in the status, and the status in the document. -/
theorem patchedStatus_targetsPatch (document : Json) (targets : List TargetStatus) :
    patchedStatus document (targetsPatch targets)
      = .obj (setField "status"
          (.obj (setField "targets" (Status.targetsToJson targets) document.statusPart.fieldsOf))
          document.fieldsOf) := by
  have hlist : Json.mergePatch ((findField "targets" document.statusPart.fieldsOf).getD .null)
      (Status.targetsToJson targets) = Status.targetsToJson targets := by
    unfold Status.targetsToJson
    rw [Json.mergePatch]
    nofun
  have hpatch : patchedStatus document (targetsPatch targets)
      = Json.mergePatch document
          (.obj [("status", .obj [("targets", Status.targetsToJson targets)])]) := by
    rw [Json.mergePatch]
    rfl
  rw [hpatch, Json.mergePatch_single _ _ _ rfl, Json.mergePatch_single _ _ _ rfl]
  exact congrArg _ (congrArg (setField _ · _) (congrArg _ (congrArg (setField _ · _) hlist)))

/-- Every other field of the document stays. -/
theorem findField_patchedStatus (document : Json) (targets : List TargetStatus) {name : String}
    (hname : name ≠ "status") :
    findField name (patchedStatus document (targetsPatch targets)).fieldsOf
      = findField name document.fieldsOf := by
  rw [patchedStatus_targetsPatch]
  exact Json.findField_setField_of_ne hname _ _

/-- Every other field of the status stays, in a document with one status at most. -/
theorem findField_statusPart_patchedStatus {document : Json} (targets : List TargetStatus)
    (honce : Json.occurrences "status" document.fieldsOf ≤ 1) {name : String}
    (hname : name ≠ "targets") :
    findField name (patchedStatus document (targetsPatch targets)).statusPart.fieldsOf
      = findField name document.statusPart.fieldsOf := by
  unfold Json.statusPart
  rw [patchedStatus_targetsPatch]
  show findField name ((findField "status" (setField "status" _ document.fieldsOf)).getD
    .null).fieldsOf = _
  rw [Json.findField_setField_self honce]
  exact Json.findField_setField_of_ne hname _ _

end ApiServer

/-! ### Reading the result -/

/-- The entry of a target reads back from its written form. -/
theorem TargetStatus.ofDocument?_toJson (t : TargetStatus) :
    TargetStatus.ofDocument? t.toJson = some t := by
  obtain ⟨ns, apiUrl, secretName, error⟩ := t
  cases apiUrl <;> cases error <;> rfl

theorem Status.list?_targetsToJson (targets : List TargetStatus) :
    Document.list? TargetStatus.ofDocument? (Status.targetsToJson targets) = some targets := by
  show (targets.map TargetStatus.toJson).mapM TargetStatus.ofDocument? = some targets
  induction targets with
  | nil => rfl
  | cons t rest ih =>
    rw [List.map_cons, List.mapM_cons, TargetStatus.ofDocument?_toJson, ih]
    rfl

theorem Document.knownFields?_eq_some_iff {names : List String} {document : Json}
    {fields : List (String × Json)} :
    Document.knownFields? names document = some fields ↔
      document = .obj fields ∧ Document.eachOnce names fields = true := by
  unfold Document.knownFields?
  cases document with
  | obj fields' =>
    show (if Document.eachOnce names fields' then some fields' else none) = some fields ↔ _
    constructor
    · intro h
      split at h
      · rename_i honce
        obtain rfl := Option.some.inj h
        exact ⟨rfl, honce⟩
      · cases h
    · rintro ⟨hfields, honce⟩
      obtain rfl := Json.obj.inj hfields
      rw [if_pos honce]
  | _ =>
    constructor
    · intro h
      cases h
    · rintro ⟨h, -⟩
      cases h

/-- What a status is read from. -/
theorem Status.ofDocument?_eq_some_iff {document : Json} {s : Status} :
    Status.ofDocument? document = some s ↔ ∃ fields, document = .obj fields ∧
      Document.eachOnce ["conditions", "targets"] fields = true ∧
      Document.withDefault [] (Document.list? Condition.ofDocument?) (findField "conditions" fields)
        = some s.conditions ∧
      Document.withDefault [] (Document.list? TargetStatus.ofDocument?) (findField "targets" fields)
        = some s.targets := by
  obtain ⟨conditions, targets⟩ := s
  unfold Status.ofDocument?
  constructor
  · intro h
    obtain ⟨fields, hfields, h⟩ := Option.bind_eq_some_iff.1 h
    obtain ⟨conditions', hconditions, h⟩ := Option.bind_eq_some_iff.1 h
    obtain ⟨targets', htargets, h⟩ := Option.bind_eq_some_iff.1 h
    obtain ⟨rfl, rfl⟩ := Status.mk.inj (Option.some.inj h)
    obtain ⟨hobject, honce⟩ := Document.knownFields?_eq_some_iff.1 hfields
    exact ⟨fields, hobject, honce, hconditions, htargets⟩
  · rintro ⟨fields, hobject, honce, hconditions, htargets⟩
    refine Option.bind_eq_some_iff.2
      ⟨fields, Document.knownFields?_eq_some_iff.2 ⟨hobject, honce⟩, ?_⟩
    exact Option.bind_eq_some_iff.2
      ⟨conditions, hconditions, Option.bind_eq_some_iff.2 ⟨targets, htargets, rfl⟩⟩

/-- What a resource is read from. -/
theorem RemoteSecret.ofDocument?_eq_some_iff {document : Json} {r : RemoteSecret} :
    RemoteSecret.ofDocument? document = some r ↔ ∃ fields, document = .obj fields ∧
      Document.eachOnce ["metadata", "spec", "status"] fields = true ∧
      Document.required ObjectMeta.ofDocument? (findField "metadata" fields) = some r.metadata ∧
      Document.required RemoteSecretSpec.ofDocument? (findField "spec" fields) = some r.spec ∧
      Document.optional Status.ofDocument? (findField "status" fields) = some r.status := by
  obtain ⟨metadata, spec, status⟩ := r
  unfold RemoteSecret.ofDocument?
  constructor
  · intro h
    obtain ⟨fields, hfields, h⟩ := Option.bind_eq_some_iff.1 h
    obtain ⟨metadata', hmetadata, h⟩ := Option.bind_eq_some_iff.1 h
    obtain ⟨spec', hspec, h⟩ := Option.bind_eq_some_iff.1 h
    obtain ⟨status', hstatus, h⟩ := Option.bind_eq_some_iff.1 h
    obtain ⟨rfl, rfl, rfl⟩ := RemoteSecret.mk.inj (Option.some.inj h)
    obtain ⟨hobject, honce⟩ := Document.knownFields?_eq_some_iff.1 hfields
    exact ⟨fields, hobject, honce, hmetadata, hspec, hstatus⟩
  · rintro ⟨fields, hobject, honce, hmetadata, hspec, hstatus⟩
    refine Option.bind_eq_some_iff.2
      ⟨fields, Document.knownFields?_eq_some_iff.2 ⟨hobject, honce⟩, ?_⟩
    exact Option.bind_eq_some_iff.2 ⟨metadata, hmetadata, Option.bind_eq_some_iff.2
      ⟨spec, hspec, Option.bind_eq_some_iff.2 ⟨status, hstatus, rfl⟩⟩⟩

/-- Whether a status is what a status part says: null is the same as no status. -/
def Status.ReadsFrom (part : Json) (s : Option Status) : Prop :=
  if part.isNull then s = none else s ≠ none ∧ Status.ofDocument? part = s

/-- The status of a resource is read from the status part of its document. -/
theorem RemoteSecret.readsFrom_statusPart {document : Json} {r : RemoteSecret}
    (h : RemoteSecret.ofDocument? document = some r) :
    Status.ReadsFrom document.statusPart r.status := by
  obtain ⟨fields, rfl, -, -, -, hstatus⟩ := RemoteSecret.ofDocument?_eq_some_iff.1 h
  have hpart : Json.statusPart (.obj fields) = (findField "status" fields).getD .null := rfl
  unfold Status.ReadsFrom
  rw [hpart]
  cases hfield : findField "status" fields with
  | none =>
    rw [hfield] at hstatus
    exact (Option.some.inj hstatus).symm
  | some part =>
    rw [hfield] at hstatus
    have hread : (if part.isNull then some none else (Status.ofDocument? part).map some)
        = some r.status := hstatus
    rw [Option.getD_some]
    split at hread
    · rename_i hnull
      rw [if_pos hnull]
      exact (Option.some.inj hread).symm
    · rename_i hnull
      obtain ⟨s, hs, hsome⟩ := Option.map_eq_some_iff.1 hread
      rw [if_neg hnull, ← hsome]
      exact ⟨Option.some_ne_none s, hs⟩

/-- A status in which targets were set is the same status with these targets. -/
theorem Status.ofDocument?_setField {part : Json} {s : Option Status}
    (h : Status.ReadsFrom part s) (targets : List TargetStatus) :
    Status.ofDocument? (Json.obj (setField "targets" (targetsToJson targets) part.fieldsOf))
      = some { s.getD {} with targets := targets } := by
  have hlist := Status.list?_targetsToJson targets
  unfold Status.ReadsFrom at h
  split at h
  · -- There was no status, so the targets are all there is.
    rename_i hnull
    obtain rfl := h
    cases part with
    | null =>
      refine Status.ofDocument?_eq_some_iff.2
        ⟨[("targets", targetsToJson targets)], rfl, rfl, rfl, hlist⟩
    | _ => cases hnull
  · cases s with
    | none => exact absurd rfl h.1
    | some s =>
      obtain ⟨fields, rfl, honce, hconditions, htargets⟩ := Status.ofDocument?_eq_some_iff.1 h.2
      have hone : Json.occurrences "targets" fields ≤ 1 :=
        Json.occurrences_le_of_eachOnce honce (by simp)
      refine Status.ofDocument?_eq_some_iff.2
        ⟨_, rfl, Json.eachOnce_setField "targets" _ honce, ?_, ?_⟩
      · have hother : ("conditions" : String) ≠ "targets" := by decide
        have hsame := Json.findField_setField_of_ne hother (targetsToJson targets) fields
        show Document.withDefault [] (Document.list? Condition.ofDocument?)
          (findField "conditions" (setField "targets" (targetsToJson targets) fields)) = _
        rw [hsame]
        exact hconditions
      · have hset := Json.findField_setField_self hone (targetsToJson targets)
        show Document.withDefault [] (Document.list? TargetStatus.ofDocument?)
          (findField "targets" (setField "targets" (targetsToJson targets) fields)) = _
        rw [hset]
        exact hlist

/-- A resource in which targets were recorded is the same resource with these targets. -/
theorem RemoteSecret.ofDocument?_patchedStatus {document : Json} {r : RemoteSecret}
    (h : RemoteSecret.ofDocument? document = some r) (targets : List TargetStatus) :
    RemoteSecret.ofDocument?
        (ApiServer.patchedStatus document (RemoteSecretApi.targetsPatch targets))
      = some { r with status := some { (r.status.getD {}) with targets := targets } } := by
  have hstatus := Status.ofDocument?_setField (RemoteSecret.readsFrom_statusPart h) targets
  rw [ApiServer.patchedStatus_targetsPatch]
  obtain ⟨fields, rfl, honce, hmetadata, hspec, -⟩ := RemoteSecret.ofDocument?_eq_some_iff.1 h
  have hone : Json.occurrences "status" fields ≤ 1 :=
    Json.occurrences_le_of_eachOnce honce (by simp)
  refine RemoteSecret.ofDocument?_eq_some_iff.2
    ⟨_, rfl, Json.eachOnce_setField "status" _ honce, ?_, ?_, ?_⟩
  · rw [show (Json.obj fields).fieldsOf = fields from rfl,
      Json.findField_setField_of_ne (by decide)]
    exact hmetadata
  · rw [show (Json.obj fields).fieldsOf = fields from rfl,
      Json.findField_setField_of_ne (by decide)]
    exact hspec
  · rw [show (Json.obj fields).fieldsOf = fields from rfl, Json.findField_setField_self hone]
    show (Status.ofDocument? (Json.obj _)).map some = _
    rw [hstatus]
    rfl

end SecretSync
