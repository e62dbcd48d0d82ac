import SecretSync.Http.ApiFailure
import SecretSync.Text.Duration

/-!
# `SecretSync.Store.Error`: failures of a store request

What callers tell apart is whether the object is missing, whether the name is
taken and whether somebody else wrote in between. Failures of the API server
are sorted into these by their code, and for a taken name by their reason;
all others stay as they are.
-/

set_option autoImplicit false

namespace SecretSync

/-- Why a store request failed. -/
inductive StoreError where
  /-- The object does not exist. -/
  | notFound (detail : String)
  /-- An object of this name exists already. -/
  | alreadyExists (detail : String)
  /-- The object changed since it was read. -/
  | conflict (detail : String)
  /-- There was no answer in time. -/
  | timeout (limit : Duration)
  /-- The API server or the way to it failed. -/
  | api (failure : ApiFailure)
  /-- The request makes no sense. -/
  | other (detail : String)
  deriving DecidableEq, Repr

namespace StoreError

/-- The text of a failure. -/
def message : StoreError → String
  | .notFound detail => "object not found: " ++ detail
  | .alreadyExists detail => "object already exists: " ++ detail
  | .conflict detail => "conflicting write: " ++ detail
  | .timeout limit => "request timed out after " ++ limit.text
  | .api failure => "kubernetes API error: " ++ failure.message
  | .other detail => detail

/-- Whether the object is missing. -/
def isNotFound : StoreError → Bool
  | .notFound _ => true
  | _ => false

/-- Whether the name is taken. -/
def isAlreadyExists : StoreError → Bool
  | .alreadyExists _ => true
  | _ => false

/-- The store failure that a failure of the API server amounts to. -/
def ofApiFailure : ApiFailure → StoreError
  | .rejected r =>
    if r.code = 404 then .notFound r.message
    else if r.code = 409 then
      if r.reason = "AlreadyExists" then .alreadyExists r.message else .conflict r.message
    else .api (.rejected r)
  | failure => .api failure

end StoreError

end SecretSync
