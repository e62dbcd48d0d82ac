import SecretSync.Resource.ObjectMeta
import SecretSync.Text.Base64

/-!
# `SecretSync.Resource.Secret`: secrets

A secret is metadata and named byte strings. On the wire the bytes are
base64; a value that is not strict base64 makes the whole document
unreadable, and so does a document that says it is of another kind.
-/

set_option autoImplicit false

namespace SecretSync

/-- The contents of a secret: bytes by key. -/
abbrev SecretData := SortedMap Bytes

/-- The bytes of texts. -/
def SecretData.ofTexts (m : SortedMap String) : SecretData := m.map Text.utf8

/-- A secret. -/
structure Secret where
  metadata : ObjectMeta := {}
  data : Option SecretData := none
  /-- Values given as text; they take precedence over `data`. -/
  stringData : Option (SortedMap String) := none
  type : Option String := none
  immutable : Option Bool := none
  deriving DecidableEq, Inhabited

namespace Secret

/-- The name, empty if there is none. -/
def name (s : Secret) : String := s.metadata.nameText

/-- What a reader of the secret sees: the data, overridden by the values given as text. -/
def contents (s : Secret) : SecretData :=
  let data := s.data.getD .empty
  match s.stringData with
  | some texts => data.merge (SecretData.ofTexts texts)
  | none => data

/-- Reads the base64 values of an object. -/
def dataOfJson? (j : Json) : Option SecretData := do
  let fields ← j.obj?
  let entries ← fields.mapM fun f => do
    let text ← f.2.str?
    let bytes ← (Text.Base64.decodeText text).toOption
    pure (f.1, bytes)
  pure (SortedMap.ofList entries)

/-- Whether a tag of the document, if it is there, is the expected text. -/
def tagIs (expected : String) : Option Json → Bool
  | some j => j.str? == some expected
  | none => true

/-- Reads a secret. -/
def ofJson? (j : Json) : Option Secret := do
  let fields ← j.obj?
  let field (name : String) := Json.findField name fields
  if !tagIs "v1" (field "apiVersion") || !tagIs "Secret" (field "kind") then none
  else pure {
    metadata := (← Document.optional ObjectMeta.ofDocument? (field "metadata")).getD {}
    data := ← Document.optional dataOfJson? (field "data")
    stringData := ← Document.optional Document.textMap? (field "stringData")
    type := ← Document.optional Json.str? (field "type")
    immutable := ← Document.optional Json.bool? (field "immutable")
  }

/-- The base64 values as an object. -/
def dataToJson (data : SecretData) : Json :=
  .obj (data.entries.map fun e => (e.1, .str (Text.Base64.encode e.2)))

/-- The written form of a secret; the metadata is always there. -/
def toJson (s : Secret) : Json :=
  .obj <|
    [("apiVersion", .str "v1")] ++
    Json.optionalField "data" dataToJson s.data ++
    Json.optionalField "immutable" Json.bool s.immutable ++
    [("kind", .str "Secret"), ("metadata", s.metadata.toJson)] ++
    Json.optionalField "stringData" Json.ofTextMap s.stringData ++
    Json.optionalField "type" Json.str s.type

end Secret

end SecretSync
