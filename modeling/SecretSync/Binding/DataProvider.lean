import SecretSync.OwnerKey
import SecretSync.Store.Basic

/-!
# `SecretSync.Binding.DataProvider`: where secret data comes from

A data provider answers the question for the data under a key, and may talk
to a store to find out. `StaticData` holds data in memory; `sourceSecret`
copies an existing secret, in which values given as text take precedence, as
they do on a server.

`decodeBase64` and `SecretData.ofTexts` turn values given by people into
data.
-/

set_option autoImplicit false

namespace SecretSync

/-- Why there is no data. -/
inductive ProviderError where
  /-- Nothing is known under the key. -/
  | notFound (key : String)
  /-- The data could not be read. -/
  | store (e : StoreError)
  /-- What is there is not data. -/
  | invalid (detail : String)
  deriving DecidableEq, Repr

namespace ProviderError

/-- The text of a failure. -/
def message : ProviderError → String
  | .notFound key => "no secret data available for " ++ key
  | .store e => "failed to read the secret data: " ++ e.message
  | .invalid detail => "invalid secret data: " ++ detail

/-- What lies behind a failure. -/
def causes : ProviderError → List String
  | .store e => [e.message]
  | _ => []

end ProviderError

/-- The answer to the question for the data under a key. -/
abbrev DataProvider := OwnerKey → StoreProgram (Except ProviderError SecretData)

/-- Decodes base64 values, the blanks around them taken off. The first value in key order that is
not base64 is the failure. -/
def decodeBase64 (values : SortedMap String) : Except ProviderError SecretData :=
  values.mapM fun key value =>
    match Text.Base64.decodeText (Text.trim value) with
    | .ok bytes => .ok bytes
    | .error e =>
      .error (.invalid ("value of '" ++ key ++ "' is not base64: " ++ e.message))

/-- Data in memory, by key; of a key that occurs twice the first counts. -/
structure StaticData where
  entries : List (OwnerKey × SecretData)

namespace StaticData

/-- No data for any key. -/
def empty : StaticData := ⟨[]⟩

/-- Sets the data of a key, replacing what was there. -/
def insert (s : StaticData) (key : OwnerKey) (data : SecretData) : StaticData :=
  ⟨(key, data) :: s.entries.filter fun e => e.1 != key⟩

/-- The data of a key. -/
def get? (s : StaticData) (key : OwnerKey) : Option SecretData := s.entries.lookup key

/-- The provider of the data in memory. -/
def provider (s : StaticData) : DataProvider := fun key =>
  .done <| match s.get? key with
    | some data => .ok data
    | none => .error (.notFound key.toString)

end StaticData

namespace DataProvider

/-- The provider that always fails. -/
def failing (e : ProviderError) : DataProvider := fun _ => .done (.error e)

/-- The part of the program that reads source secrets, as log records name it. -/
def logOrigin : String := "remote_secret_controller::provider"

/-- The provider that copies the secret under the key. -/
def sourceSecret : DataProvider := fun key => do
  match ← Store.get key.ns key.name with
  | .ok secret =>
    Program.log {
      level := .debug
      origin := logOrigin
      message := "read source secret data"
      fields := [("source", .text key.toString), ("keys", .number secret.contents.size)]
    }
    return .ok secret.contents
  | .error e =>
    return .error (if e.isNotFound then .notFound key.toString else .store e)

end DataProvider

end SecretSync
