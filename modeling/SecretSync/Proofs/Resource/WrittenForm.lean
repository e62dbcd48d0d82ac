import Mathlib.Data.List.Nodup
import SecretSync.Proofs.Json.Text
import SecretSync.Proofs.Resource.RoundTrip
import SecretSync.Proofs.Resource.StatusPatch

/-!
# `SecretSync.Proofs.Resource.WrittenForm`: resources as they are written

A resource is read back from its written form and from the text of it
(`RemoteSecret.ofDocument?_toJson`, `RemoteSecret.read?_render`), whatever its
parts are: absent, empty or not.

A document may be written in other ways, with fields left out, null or in
another order. `RemoteSecret.written_form` says that writing it anew changes
only that, and that recording targets in it, any number of times, changes
nothing but the targets.
-/

set_option autoImplicit false

namespace SecretSync

open Json (Plain findField findField_append findField_optionalField)
open Document (mapM_map optional_map textMap?_ofTextMap)

/-! ### Fields that may be left out -/

theorem Document.eachOnce_of_sublist {names : List String} {fields : List (String × Json)}
    (written : List String) (h : (fields.map Prod.fst).Sublist written)
    (hwritten : written.Nodup) : Document.eachOnce names fields = true := by
  have hnodup := h.nodup hwritten
  unfold Document.eachOnce
  rw [List.all_eq_true]
  intro name _
  have hcount : (fields.filter fun f => f.1 == name).length
      = (fields.map Prod.fst).count name := by
    rw [List.count_eq_countP, List.countP_map, List.countP_eq_length_filter]
    rfl
  rw [hcount]
  exact decide_eq_true (List.nodup_iff_count_le_one.1 hnodup name)

theorem Json.names_optionalField {α : Type} (name : String) (write : α → Json)
    (value : Option α) :
    ((Json.optionalField name write value).map Prod.fst).Sublist [name] := by
  cases value with
  | none => exact List.nil_sublist _
  | some a => exact List.Sublist.refl _

theorem Document.withDefault_text (value : String) :
    Document.withDefault "" Document.text? (if value = "" then none else some (Json.str value))
      = some value := by
  split
  · rename_i h
    rw [h]
    rfl
  · rfl

theorem Document.withDefault_textMap (m : SortedMap String) :
    Document.withDefault .empty Document.textMap?
        (if m.isEmpty then none else some (Json.ofTextMap m)) = some m := by
  split
  · rename_i h
    rw [show m = .empty from SortedMap.ext_get? fun k => SortedMap.get?_of_isEmpty h k]
    rfl
  · exact textMap?_ofTextMap m

namespace SecretSpec

theorem names_nonEmptyText (name value : String) :
    ((nonEmptyText name value).map Prod.fst).Sublist [name] := by
  unfold nonEmptyText
  split
  · exact List.nil_sublist _
  · exact List.Sublist.refl _

theorem names_nonEmptyMap (name : String) (m : SortedMap String) :
    ((nonEmptyMap name m).map Prod.fst).Sublist [name] := by
  unfold nonEmptyMap
  split
  · exact List.nil_sublist _
  · exact List.Sublist.refl _

theorem findField_nonEmptyText (name field value : String) :
    findField name (nonEmptyText field value)
      = if field = name then if value = "" then none else some (.str value) else none := by
  unfold nonEmptyText
  split <;> simp_all [findField]

theorem findField_nonEmptyMap (name field : String) (m : SortedMap String) :
    findField name (nonEmptyMap field m)
      = if field = name then if m.isEmpty then none else some (Json.ofTextMap m) else none := by
  unfold nonEmptyMap
  split <;> simp_all [findField]

/-- The shape of a secret is read back. -/
theorem ofDocument?_toJson (s : SecretSpec) : ofDocument? s.toJson = some s := by
  have hfind : ∀ (name : String) (fields : List (String × Json)),
      (Document.findField name fields : Option Json) = findField name fields := fun _ _ => rfl
  have honce : Document.eachOnce ["name", "generateName", "type", "labels", "annotations"]
      (nonEmptyText "name" s.name ++ nonEmptyText "generateName" s.generateName ++
        Json.optionalField "type" Json.str s.type ++ nonEmptyMap "labels" s.labels ++
        nonEmptyMap "annotations" s.annotations) = true := by
    refine Document.eachOnce_of_sublist ["name", "generateName", "type", "labels", "annotations"]
      ?_ (by decide)
    simp only [List.map_append]
    exact ((((names_nonEmptyText _ _).append (names_nonEmptyText _ _)).append
      (Json.names_optionalField _ _ _)).append (names_nonEmptyMap _ _)).append
      (names_nonEmptyMap _ _)
  unfold ofDocument? toJson
  rw [Document.knownFields?_eq_some_iff.2 ⟨rfl, honce⟩]
  simp [hfind, findField_append, findField_nonEmptyText, findField_nonEmptyMap,
    findField_optionalField, Document.withDefault_text, Document.withDefault_textMap,
    Document.optional_text]

end SecretSpec

/-! ### The parts of a resource -/

theorem TargetSpec.ofDocument?_toJson (t : TargetSpec) : ofDocument? t.toJson = some t := by
  obtain ⟨ns, apiUrl, credentials⟩ := t
  cases apiUrl <;> cases credentials <;> rfl

theorem DataFrom.ofDocument?_toJson (d : DataFrom) : ofDocument? d.toJson = some d := by
  obtain ⟨name, ns⟩ := d
  cases ns <;> rfl

theorem Condition.ofDocument?_toJson (c : Condition) : ofDocument? c.toJson = some c := by
  obtain ⟨type, status, time, reason, message⟩ := c
  cases time <;> cases reason <;> cases message <;> rfl

/-- A value that may be written as null is read back, unless null stands for a value too. -/
theorem Document.optional_orNull {α : Type} {read : Json → Option α} {write : α → Json}
    (hread : ∀ a, read (write a) = some a) (hnull : ∀ a, (write a).isNull = false)
    (value : Option α) :
    Document.optional read (some (RemoteSecretSpec.orNull write value)) = some value := by
  cases value with
  | none => rfl
  | some a => exact optional_map hread hnull (some a)

theorem RemoteSecretSpec.ofDocument?_toJson (s : RemoteSecretSpec) :
    ofDocument? s.toJson = some s := by
  have hsecret : Document.withDefault {} SecretSpec.ofDocument? (some s.secret.toJson)
      = some s.secret := SecretSpec.ofDocument?_toJson s.secret
  have htargets : Document.withDefault [] (Document.list? TargetSpec.ofDocument?)
      (some (Json.arr (s.targets.map TargetSpec.toJson))) = some s.targets :=
    mapM_map TargetSpec.ofDocument?_toJson s.targets
  have hfrom := Document.optional_orNull DataFrom.ofDocument?_toJson (fun _ => rfl) s.dataFrom
  have hupload := Document.optional_orNull textMap?_ofTextMap (fun _ => rfl) s.uploadData
  unfold ofDocument?
  refine Option.bind_eq_some_iff.2 ⟨_, Document.knownFields?_eq_some_iff.2 ⟨rfl, rfl⟩, ?_⟩
  refine Option.bind_eq_some_iff.2 ⟨_, hsecret, Option.bind_eq_some_iff.2 ⟨_, htargets, ?_⟩⟩
  exact Option.bind_eq_some_iff.2 ⟨_, hfrom, Option.bind_eq_some_iff.2 ⟨_, hupload, rfl⟩⟩

theorem Status.ofDocument?_toJson (s : Status) : ofDocument? s.toJson = some s :=
  Status.ofDocument?_eq_some_iff.2 ⟨_, rfl, rfl,
    mapM_map Condition.ofDocument?_toJson s.conditions,
    Status.list?_targetsToJson s.targets⟩

/-- A resource is read back. -/
theorem RemoteSecret.ofDocument?_toJson (r : RemoteSecret) : ofDocument? r.toJson = some r := by
  have hmetadata := ObjectMeta.ofDocument?_toJson r.metadata
  have hspec := RemoteSecretSpec.ofDocument?_toJson r.spec
  obtain ⟨metadata, spec, status⟩ := r
  cases status with
  | none => exact RemoteSecret.ofDocument?_eq_some_iff.2 ⟨_, rfl, rfl, hmetadata, hspec, rfl⟩
  | some status =>
    refine RemoteSecret.ofDocument?_eq_some_iff.2 ⟨_, rfl, rfl, hmetadata, hspec, ?_⟩
    exact optional_map Status.ofDocument?_toJson (fun _ => rfl) (some status)

/-! ### The text -/

namespace Json

/-- Fields that hold values without numbers. -/
def PlainFields (depth : Nat) (fields : List (String × Json)) : Prop :=
  ∀ f ∈ fields, Plain depth f.2

theorem plain_obj {depth : Nat} {fields : List (String × Json)} (h : PlainFields depth fields) :
    Plain (depth + 1) (.obj fields) := .obj h

@[simp]
theorem plainFields_nil (depth : Nat) : PlainFields depth [] :=
  fun _ hf => absurd hf List.not_mem_nil

@[simp]
theorem plainFields_cons {depth : Nat} {f : String × Json} {fields : List (String × Json)} :
    PlainFields depth (f :: fields) ↔ Plain depth f.2 ∧ PlainFields depth fields :=
  List.forall_mem_cons

@[simp]
theorem plainFields_append {depth : Nat} {fields fields' : List (String × Json)} :
    PlainFields depth (fields ++ fields') ↔ PlainFields depth fields ∧ PlainFields depth fields' :=
  List.forall_mem_append

theorem plainFields_optionalField {α : Type} {depth : Nat} {write : α → Json}
    (h : ∀ a, Plain depth (write a)) (name : String) (value : Option α) :
    PlainFields depth (optionalField name write value) := by
  cases value with
  | none => exact plainFields_nil depth
  | some a => exact plainFields_cons.2 ⟨h a, plainFields_nil depth⟩

theorem plain_map {α : Type} {depth : Nat} {write : α → Json} (h : ∀ a, Plain depth (write a))
    (values : List α) : Plain (depth + 1) (.arr (values.map write)) := by
  refine .arr fun item hitem => ?_
  obtain ⟨a, -, rfl⟩ := List.mem_map.1 hitem
  exact h a

@[simp]
theorem plain_str (depth : Nat) (s : String) : Plain depth (.str s) := .str

theorem plain_ofTextMap (depth : Nat) (m : SortedMap String) :
    Plain (depth + 1) (ofTextMap m) := by
  refine .obj fun f hf => ?_
  obtain ⟨e, -, rfl⟩ := List.mem_map.1 hf
  exact .str

end Json

open Json (plain_obj plainFields_nil plainFields_cons plainFields_optionalField plain_map plain_str
  plain_ofTextMap)

theorem ObjectMeta.plain_toJson (depth : Nat) (m : ObjectMeta) : Plain (depth + 2) m.toJson := by
  have htext := plainFields_optionalField (plain_str (depth + 1))
  have htexts := plainFields_optionalField (plain_ofTextMap depth)
  exact plain_obj (by simp [htext, htexts])

theorem SecretSpec.plain_toJson (depth : Nat) (s : SecretSpec) : Plain (depth + 2) s.toJson := by
  have htext (name value : String) : Json.PlainFields (depth + 1) (nonEmptyText name value) := by
    unfold nonEmptyText
    split
    · exact plainFields_nil _
    · exact plainFields_cons.2 ⟨.str, plainFields_nil _⟩
  have htexts (name : String) (m : SortedMap String) :
      Json.PlainFields (depth + 1) (nonEmptyMap name m) := by
    unfold nonEmptyMap
    split
    · exact plainFields_nil _
    · exact plainFields_cons.2 ⟨plain_ofTextMap depth m, plainFields_nil _⟩
  have htype := plainFields_optionalField (plain_str (depth + 1))
  exact plain_obj (by simp [htext, htexts, htype])

theorem TargetSpec.plain_toJson (depth : Nat) (t : TargetSpec) : Plain (depth + 1) t.toJson := by
  have htext := plainFields_optionalField (plain_str depth)
  exact plain_obj (by simp [htext])

theorem DataFrom.plain_toJson (depth : Nat) (d : DataFrom) : Plain (depth + 1) d.toJson := by
  have htext := plainFields_optionalField (plain_str depth)
  exact plain_obj (by simp [htext])

theorem RemoteSecretSpec.plain_orNull {α : Type} {depth : Nat} {write : α → Json}
    (h : ∀ a, Plain depth (write a)) (value : Option α) : Plain depth (orNull write value) := by
  cases value with
  | none => exact .null
  | some a => exact h a

theorem RemoteSecretSpec.plain_toJson (depth : Nat) (s : RemoteSecretSpec) :
    Plain (depth + 3) s.toJson := by
  have hsecret := SecretSpec.plain_toJson depth s.secret
  have htargets := plain_map (TargetSpec.plain_toJson depth) s.targets
  have hfrom := plain_orNull (DataFrom.plain_toJson (depth + 1)) s.dataFrom
  have hupload := plain_orNull (plain_ofTextMap (depth + 1)) s.uploadData
  exact plain_obj (by simp [hsecret, htargets, hfrom, hupload])

theorem Condition.plain_toJson (depth : Nat) (c : Condition) : Plain (depth + 1) c.toJson := by
  have htext (value : Option String) : Plain depth (orNull value) := by
    cases value with
    | none => exact .null
    | some s => exact .str
  exact plain_obj (by simp [htext])

theorem TargetStatus.plain_toJson (depth : Nat) (t : TargetStatus) :
    Plain (depth + 1) t.toJson := by
  have htext := plainFields_optionalField (plain_str depth)
  exact plain_obj (by simp [htext])

theorem Status.plain_toJson (depth : Nat) (s : Status) : Plain (depth + 3) s.toJson := by
  have hconditions := plain_map (Condition.plain_toJson depth) s.conditions
  have htargets : Plain (depth + 2) (targetsToJson s.targets) :=
    plain_map (TargetStatus.plain_toJson depth) s.targets
  exact plain_obj (by simp [hconditions, htargets])

theorem RemoteSecret.plain_toJson (r : RemoteSecret) : Plain 4 r.toJson := by
  have hmetadata := ObjectMeta.plain_toJson 1 r.metadata
  have hspec := RemoteSecretSpec.plain_toJson 0 r.spec
  have hstatus := plainFields_optionalField (Status.plain_toJson 0) "status" r.status
  exact plain_obj (by simp [hmetadata, hspec, hstatus])

/-- The text of a resource stands for its written form. -/
theorem RemoteSecret.read?_render (r : RemoteSecret) :
    Json.read? r.toJson.render = some r.toJson :=
  r.plain_toJson.read?_render (by decide)

/-! ### Writing anew and recording targets -/

/-- What is read back from what it is written as is not changed by writing it anew. -/
theorem bind_map_of_readBack {α β : Type} {read : β → Option α} {write : α → β}
    (h : ∀ a, read (write a) = some a) (b : β) :
    ((read b).map write).bind read = read b ∧
      ((read b).map write).bind (fun b => (read b).map write) = (read b).map write := by
  cases read b with
  | none => exact ⟨rfl, rfl⟩
  | some a =>
    refine ⟨h a, ?_⟩
    show (read (write a)).map write = _
    rw [h]

namespace RemoteSecret

/-- Reads a resource from JSON text. -/
def ofText? (text : String) : Option RemoteSecret := (Json.read? text).bind ofDocument?

/-- The text of a resource. -/
def toText (r : RemoteSecret) : String := r.toJson.render

/-- A document written anew, if it is one of a resource. -/
def rewritten? (document : Json) : Option Json := (ofDocument? document).map toJson

/-- A text written anew, if it is one of a resource. -/
def rewrittenText? (text : String) : Option String := (ofText? text).map toText

theorem ofText?_toText (r : RemoteSecret) : ofText? r.toText = some r := by
  unfold ofText? toText
  rw [read?_render, Option.bind_some, ofDocument?_toJson]

/-- The resource with other targets in its status. -/
def withTargets (r : RemoteSecret) (targets : List TargetStatus) : RemoteSecret :=
  { r with status := some { (r.status.getD {}) with targets := targets } }

/-- A document in whose status targets were recorded, time after time. -/
def patched (document : Json) (records : List (List TargetStatus)) : Json :=
  records.foldl (fun d targets => ApiServer.patchedStatus d (RemoteSecretApi.targetsPatch targets))
    document

/-- However often targets are recorded, only the last ones are new. -/
theorem ofDocument?_patched {document : Json} {r : RemoteSecret}
    (h : ofDocument? document = some r) (records : List (List TargetStatus)) :
    ofDocument? (patched document records) = some (records.getLast?.elim r r.withTargets) := by
  induction records generalizing document r with
  | nil => exact h
  | cons targets rest ih =>
    have hrest := ih (ofDocument?_patchedStatus h targets)
    refine hrest.trans (congrArg some ?_)
    cases rest with
    | nil => rfl
    | cons next rest =>
      rw [List.getLast?_cons_cons]
      cases hlast : (next :: rest).getLast? with
      | none => cases List.getLast?_eq_none_iff.1 hlast
      | some last => rfl

/-- Resources are read back as they were written, as documents and as text. So what is read from
any document, with fields left out, null or empty in any combination, is read again after writing
it, and writing settles after once. Recording targets in the document, time after time, changes
nothing but the targets that are read from it. -/
theorem written_form :
    (∀ r : RemoteSecret, ofDocument? r.toJson = some r ∧ ofText? r.toText = some r) ∧
    (∀ document : Json, (rewritten? document).bind ofDocument? = ofDocument? document ∧
      (rewritten? document).bind rewritten? = rewritten? document) ∧
    (∀ text : String, (rewrittenText? text).bind ofText? = ofText? text ∧
      (rewrittenText? text).bind rewrittenText? = rewrittenText? text) ∧
    ∀ (document : Json) (r : RemoteSecret), ofDocument? document = some r →
      ∀ records : List (List TargetStatus),
        ofDocument? (patched document records) = some (records.getLast?.elim r r.withTargets) ∧
        ofDocument? (patched r.toJson records) = some (records.getLast?.elim r r.withTargets) :=
  ⟨fun r => ⟨r.ofDocument?_toJson, r.ofText?_toText⟩,
    bind_map_of_readBack ofDocument?_toJson, bind_map_of_readBack ofText?_toText,
    fun _ r h records =>
      ⟨ofDocument?_patched h records, ofDocument?_patched r.ofDocument?_toJson records⟩⟩

/-- A document in which fields are left out, null and empty. -/
def sparseDocument : Json :=
  .obj [
    ("status", .null),
    ("metadata", .obj [("name", .str "creds"), ("labels", .obj []), ("annotations", .null)]),
    ("spec", .obj [
      ("secret", .obj [("type", .str ""), ("labels", .obj []), ("name", .str "")]),
      ("uploadData", .obj []),
      ("dataFrom", .null)])]

theorem written_form_sparse :
    ofDocument? sparseDocument = some {
      metadata := { name := some "creds", labels := some .empty }
      spec := { secret := { type := some "" }, uploadData := some .empty } } ∧
    ofDocument? (patched sparseDocument
        [[{ ns := "app", error := some "denied" }], [{ ns := "app", secretName := "creds-x" }]])
      = some {
        metadata := { name := some "creds", labels := some .empty }
        spec := { secret := { type := some "" }, uploadData := some .empty }
        status := some { targets := [{ ns := "app", secretName := "creds-x" }] } } :=
  ⟨rfl, (written_form.2.2.2 sparseDocument _ rfl
    [[{ ns := "app", error := some "denied" }], [{ ns := "app", secretName := "creds-x" }]]).1⟩

end RemoteSecret

end SecretSync
