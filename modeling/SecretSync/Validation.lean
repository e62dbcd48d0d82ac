import SecretSync.Resource.RemoteSecret
import SecretSync.Text.Segments

/-!
# `SecretSync.Validation`: which resources are admitted

Names follow RFC 1123. A *label* is made of lowercase ASCII letters, digits
and hyphens and begins and ends with a letter or digit; a *subdomain* is
labels with dots between them. A namespace is a label of at most 63 bytes, a
name a subdomain of at most 253 bytes, and a prefix for generated names may
also end in one hyphen more.

A resource is admitted if its data has one source, its names are valid and no
target is listed twice. Once the data has been obtained, its source can no
longer be another resource.
-/

set_option autoImplicit false

namespace SecretSync

/-- Why a resource is not admitted. -/
inductive ValidationError where
  /-- The data has two sources. -/
  | conflictingDataSources
  /-- The source of the data can no longer be changed. -/
  | dataAlreadyObtained
  /-- A target is listed twice. -/
  | duplicateTarget (ns : String) (apiUrl : Option String)
  /-- A name is not valid. -/
  | invalidName (field value reason : String)
  deriving DecidableEq, Repr

/-- The text of the complaint. -/
def ValidationError.message : ValidationError → String
  | .conflictingDataSources => "dataFrom and uploadData cannot be specified at the same time"
  | .dataAlreadyObtained =>
    "dataFrom cannot be set once the RemoteSecret has obtained its data"
  | .duplicateTarget ns apiUrl =>
    "target namespace '" ++ ns ++ "' in cluster '" ++ apiUrl.getD "local" ++
      "' is listed more than once"
  | .invalidName field value reason => field ++ " '" ++ value ++ "' is invalid: " ++ reason

namespace Validation

/-! ### Names -/

/-- A lowercase ASCII letter or a digit. -/
def isLabelEnd (c : Char) : Bool := ('a' ≤ c && c ≤ 'z') || ('0' ≤ c && c ≤ '9')

/-- A character that a label may hold. -/
def isLabelChar (c : Char) : Bool := isLabelEnd c || c == '-'

/-- Whether the characters form a label. -/
def isLabel (cs : List Char) : Bool :=
  cs.all isLabelChar && cs.head?.any isLabelEnd && cs.getLast?.any isLabelEnd

/-- Whether the characters form labels with dots between them. -/
def isSubdomain (cs : List Char) : Bool := (Text.segments '.' cs).all isLabel

/-- Checks that a text is not empty, not too long, and of the right form. -/
def checkText (maxBytes : Nat) (isValid : List Char → Bool) (rule field value : String) :
    Except ValidationError Unit :=
  if value.isEmpty then .error (.invalidName field value "cannot be empty")
  else if value.utf8ByteSize > maxBytes then
    .error (.invalidName field value
      ("exceeds maximum length of " ++ toString maxBytes ++ " characters (got " ++
        toString value.utf8ByteSize ++ ")"))
  else if isValid value.toList then .ok ()
  else .error (.invalidName field value rule)

/-- Checks a name. -/
def checkName (field value : String) : Except ValidationError Unit :=
  checkText 253 isSubdomain
    "must be lowercase alphanumeric, hyphens, dots; cannot start/end with hyphen or dot" field value

/-- Checks a namespace. -/
def checkNamespace (field value : String) : Except ValidationError Unit :=
  checkText 63 isLabel
    "must be lowercase alphanumeric, hyphens; cannot start/end with hyphen" field value

/-- A prefix with a hyphen at its end replaced by a letter, since the server goes on after it. -/
def completedPrefix (value : String) : String :=
  match value.toList.reverse with
  | '-' :: rest => String.ofList ('a' :: rest).reverse
  | _ => value

/-- A complaint about another value. -/
def about (value : String) : ValidationError → ValidationError
  | .invalidName field _ reason => .invalidName field value reason
  | e => e

/-- Checks a prefix of generated names. -/
def checkGenerateName (field value : String) : Except ValidationError Unit :=
  (checkName field (completedPrefix value)).mapError (about value)

/-! ### Resources -/

/-- The condition that holds once the data has been obtained. -/
def dataObtained : String := "DataObtained"

/-- Whether the data is to be copied from another resource. -/
def wantsDataFrom (s : RemoteSecretSpec) : Bool := s.dataFrom.any (!·.isEmpty)

/-- Whether the resource holds data itself. -/
def hasUploadData (s : RemoteSecretSpec) : Bool := s.uploadData.any (!·.isEmpty)

/-- Checks that the data has at most one source. -/
def checkDataSources (s : RemoteSecretSpec) : Except ValidationError Unit :=
  if wantsDataFrom s && hasUploadData s then .error .conflictingDataSources else .ok ()

/-- Checks the name and the prefix, where they are given. -/
def checkSecretNames (s : SecretSpec) : Except ValidationError Unit := do
  if !s.name.isEmpty then checkName "spec.secret.name" s.name
  if !s.generateName.isEmpty then checkGenerateName "spec.secret.generateName" s.generateName

/-- The place of a target: its namespace and the address of its cluster, where the empty address is
none. -/
def place (t : TargetSpec) : String × Option String := (t.ns, t.apiUrl.filter (!·.isEmpty))

/-- Checks the namespaces of targets, and that no place is one in `seen` or comes twice. -/
def checkTargets (seen : List (String × Option String)) :
    List TargetSpec → Except ValidationError Unit
  | [] => .ok ()
  | t :: rest => do
    checkNamespace "spec.targets.namespace" t.ns
    if place t ∈ seen then throw (.duplicateTarget (place t).1 (place t).2)
    checkTargets (place t :: seen) rest

/-- Checks a new resource. -/
def checkCreate (r : RemoteSecret) : Except ValidationError Unit := do
  checkDataSources r.spec
  checkSecretNames r.spec.secret
  checkTargets [] r.spec.targets

/-- Whether the status of a resource says that its data has been obtained. -/
def hasObtainedData (r : RemoteSecret) : Bool := r.status.any (·.isConditionTrue dataObtained)

/-- Checks a changed resource against the one it replaces. -/
def checkUpdate (old new : RemoteSecret) : Except ValidationError Unit := do
  checkCreate new
  if wantsDataFrom new.spec && (hasObtainedData old || hasObtainedData new) then
    throw .dataAlreadyObtained

/-- A resource may always be deleted. -/
def checkDelete (_ : RemoteSecret) : Except ValidationError Unit := .ok ()

end Validation

end SecretSync
