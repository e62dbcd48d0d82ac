import SecretSync.Api.Secrets
import SecretSync.Api.Server
import SecretSync.Proofs.Json.Fields
import SecretSync.Proofs.Text.Base64

/-!
# `SecretSync.Proofs.Resource.RoundTrip`: secrets on the wire

A secret is read back from its written form, whatever its metadata and its
bytes are (`Secret.ofJson?_toJson`). So it is found again in the replies of a
server (`HttpReply.read_holding`, `SecretApi.read_listReply`).
-/

set_option autoImplicit false

namespace SecretSync

open Json (findField findField_append findField_cons findField_optionalField)
open Document (mapM_map optional_map textMap?_ofTextMap)

/-! ### Metadata -/

theorem Document.optional_text (value : Option String) :
    Document.optional Document.text? (value.map Json.str) = some value := by
  have hread : ∀ text, Document.text? (Json.str text) = some text := fun _ => rfl
  exact optional_map hread (fun _ => rfl) value

theorem Document.optional_textMap (value : Option (SortedMap String)) :
    Document.optional Document.textMap? (value.map Json.ofTextMap) = some value :=
  optional_map textMap?_ofTextMap (fun _ => rfl) value

/-- Metadata are read back. -/
theorem ObjectMeta.ofDocument?_toJson (m : ObjectMeta) : ofDocument? m.toJson = some m := by
  have hfind : ∀ (name : String) (fields : List (String × Json)),
      (Document.findField name fields : Option Json) = findField name fields := fun _ _ => rfl
  unfold ofDocument? toJson
  simp only [Document.fields?, Json.obj?, hfind]
  simp [findField_append, findField_optionalField, Document.optional_text,
    Document.optional_textMap]

/-! ### Secrets -/

namespace Secret

/-- The data of a secret are read back. -/
theorem dataOfJson?_dataToJson (data : SecretData) :
    dataOfJson? (dataToJson data) = some data := by
  let write (e : String × Bytes) : String × Json := (e.1, .str (Text.Base64.encode e.2))
  let read (f : String × Json) : Option (String × Bytes) := do
    let text ← f.2.str?
    let bytes ← (Text.Base64.decodeText text).toOption
    pure (f.1, bytes)
  have hread : ∀ e, read (write e) = some e := by
    intro e
    show ((Text.Base64.decodeText (Text.Base64.encode e.2)).toOption.bind fun bytes =>
      some (e.1, bytes)) = some e
    rw [Text.Base64.decodeText_encode]
    rfl
  show ((data.entries.map write).mapM read).bind (fun entries => some (SortedMap.ofList entries))
    = some data
  rw [mapM_map hread, Option.bind_some, SortedMap.ofList_entries]

theorem optional_data (data : Option SecretData) :
    Document.optional dataOfJson? (data.map dataToJson) = some data :=
  optional_map dataOfJson?_dataToJson (fun _ => rfl) data

theorem optional_immutable (immutable : Option Bool) :
    Document.optional Json.bool? (immutable.map Json.bool) = some immutable := by
  have hread : ∀ value, Json.bool? (Json.bool value) = some value := fun _ => rfl
  exact optional_map hread (fun _ => rfl) immutable

/-- A secret is read back. -/
theorem ofJson?_toJson (s : Secret) : ofJson? s.toJson = some s := by
  have hmetadata : Document.optional ObjectMeta.ofDocument? (some s.metadata.toJson)
      = some (some s.metadata) :=
    optional_map ObjectMeta.ofDocument?_toJson (fun _ => rfl) (some s.metadata)
  have htype : Document.optional Json.str? (s.type.map Json.str) = some s.type :=
    Document.optional_text s.type
  unfold ofJson? toJson
  simp only [Json.obj?]
  simp [findField_append, findField_cons, findField_optionalField, hmetadata, htype, optional_data,
    optional_immutable, Document.optional_textMap, tagIs, Json.str?]

end Secret

/-! ### Replies -/

/-- A resource is found in the reply that holds it. -/
theorem HttpReply.read_holding {α : Type} {ofJson? : Json → Option α} {document : Json} {a : α}
    (h : ofJson? document = some a) : (holding document).read ofJson? = some (.ok a) := by
  simp [holding, read, isErrorStatus, HttpBody.json?, h]

/-- A list of secrets is found in the reply that holds it. -/
theorem SecretApi.read_listReply (secrets : List Secret) :
    (ApiServer.listReply secrets).read listOfJson? = some (.ok secrets) := by
  have hitems : Document.optional (Document.list? Secret.ofJson?)
      (some (.arr (secrets.map Secret.toJson))) = some (some secrets) := by
    show ((secrets.map Secret.toJson).mapM Secret.ofJson?).map some = some (some secrets)
    rw [mapM_map Secret.ofJson?_toJson]
    rfl
  refine HttpReply.read_holding ?_
  unfold listOfJson?
  simp only [Json.obj?]
  simp [Document.withDefault, Json.findField, Json.obj?, hitems]

end SecretSync
