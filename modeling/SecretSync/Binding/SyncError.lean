import SecretSync.Binding.DataProvider
import SecretSync.Binding.Target

/-!
# `SecretSync.Binding.SyncError`: failures of a deployment target

Every failure names the target by its owner and its kind, and holds the
failure behind it. The reason is a stable word for status reports; callers do
not tell a refused marking from a failed write, so both have the same reason.
-/

set_option autoImplicit false

namespace SecretSync

/-- Why a target failed, in one word. -/
inductive ErrorReason where
  | dataFetch | secretUpdate | staleDetection | listFailure
  deriving DecidableEq, Repr

/-- The word for a reason. -/
def ErrorReason.text : ErrorReason → String
  | .dataFetch => "DataFetch"
  | .secretUpdate => "SecretUpdate"
  | .staleDetection => "StaleDetection"
  | .listFailure => "ListFailure"

/-- The step of a listing that failed. -/
inductive ListFailure where
  /-- The owner cannot be searched for. -/
  | options (e : MarkerError)
  /-- The store could not list. -/
  | store (e : StoreError)
  /-- It is unclear who owns one of the secrets. -/
  | ownership (secret : String) (e : MarkerError)
  deriving DecidableEq, Repr

namespace ListFailure

/-- The text of a failed listing. -/
def message : ListFailure → String
  | .options e => "failed to formulate the list options: " ++ e.message
  | .store e => "failed to list the secrets: " ++ e.message
  | .ownership secret e =>
    "failed to determine whether the secret " ++ secret ++ " is managed: " ++ e.message

/-- What lies behind a failed listing. -/
def causes : ListFailure → List String
  | .options e => [e.message]
  | .store e => [e.message]
  | .ownership _ e => [e.message]

end ListFailure

/-- What went wrong at a target. -/
inductive SyncFault where
  /-- There is no data. -/
  | dataFetch (e : ProviderError)
  /-- The store refused to read or write. -/
  | secretUpdate (e : StoreError)
  /-- The marker refused. -/
  | marking (e : MarkerError)
  /-- The previous secret, of this namespace and name, could not be read. -/
  | staleDetection (ns secretName : String) (e : StoreError)
  /-- The secrets of the owner could not be listed. -/
  | list (e : ListFailure)
  deriving DecidableEq, Repr

/-- A failure of a deployment target. -/
structure SyncError where
  target : OwnerKey
  targetKind : String
  fault : SyncFault
  deriving DecidableEq, Repr

namespace SyncFault

/-- The reason that is reported for a fault. -/
def reason : SyncFault → ErrorReason
  | .dataFetch _ => .dataFetch
  | .secretUpdate _ => .secretUpdate
  | .marking _ => .secretUpdate
  | .staleDetection .. => .staleDetection
  | .list _ => .listFailure

/-- What was attempted. -/
def attempt : SyncFault → String
  | .dataFetch _ => "obtain the secret data for the deployment target"
  | .secretUpdate _ => "sync the target secret of the deployment target"
  | .marking _ => "mark the target secret of the deployment target"
  | .staleDetection ns secretName _ =>
    "detect whether the secret " ++ ns ++ "/" ++ secretName ++ " of the deployment target"
  | .list _ => "list the secrets of the deployment target"

/-- What follows the name of the target. -/
def ending : SyncFault → String
  | .staleDetection .. => " is stale"
  | _ => ""

/-- What lies behind a fault, the nearest first. -/
def causes : SyncFault → List String
  | .dataFetch e => e.message :: e.causes
  | .secretUpdate e => [e.message]
  | .marking e => [e.message]
  | .staleDetection _ _ e => [e.message]
  | .list e => e.message :: e.causes

/-- The text of the failure behind a fault. -/
def behind : SyncFault → String
  | .dataFetch e => e.message
  | .secretUpdate e => e.message
  | .marking e => e.message
  | .staleDetection _ _ e => e.message
  | .list e => e.message

end SyncFault

namespace SyncError

/-- The reason that is reported for a failure. -/
def reason (e : SyncError) : ErrorReason := e.fault.reason

/-- The text of a failure. -/
def message (e : SyncError) : String :=
  "failed to " ++ e.fault.attempt ++ " " ++ e.target.toString ++ " (" ++ e.targetKind ++ ")" ++
    e.fault.ending ++ ": " ++ e.fault.behind

/-- What lies behind a failure, the nearest first. -/
def causes (e : SyncError) : List String := e.fault.causes

end SyncError

end SecretSync
