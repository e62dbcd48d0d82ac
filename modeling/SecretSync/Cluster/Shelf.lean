import SecretSync.ListFilter
import SecretSync.Resource.Secret

/-!
# `SecretSync.Cluster.Shelf`: the secrets of one namespace

A shelf holds the secrets of a namespace by name, with two counters: one
gives every write its version, the other completes generated names. The
operations are those of an API server. Creating needs a free name; replacing
needs an existing object and, if the new one carries a version, that no other
write came in between.
-/

set_option autoImplicit false

namespace SecretSync

/-- The secrets of a namespace and its two counters. -/
structure Shelf where
  version : Nat := 0
  generated : Nat := 0
  secrets : SortedMap Secret := .empty
  deriving DecidableEq, Inhabited

/-- Why a shelf refuses a request for the secret of this name. -/
inductive Refusal where
  | notFound (name : String)
  | alreadyExists (name : String)
  | conflict (name : String)
  deriving DecidableEq, Repr

/-- The number of a generated name: at least five digits. -/
def generatedNumber (n : Nat) : String :=
  let digits := Nat.toDigits 10 n
  String.ofList (List.replicate (5 - digits.length) '0' ++ digits)

namespace Shelf

/-- The shelf without secrets. -/
def empty : Shelf := {}

/-- The secret with the version of the next write. -/
def stamped (s : Shelf) (secret : Secret) : Secret :=
  { secret with
    metadata := { secret.metadata with resourceVersion := some (toString (s.version + 1)) } }

/-- Stores a secret under a name as the next write. -/
def store (s : Shelf) (name : String) (secret : Secret) : Shelf :=
  { s with version := s.version + 1, secrets := s.secrets.insert name (s.stamped secret) }

/-- Puts a secret on the shelf as it is. It counts as a write only if it carries no version. -/
def put (s : Shelf) (secret : Secret) : Shelf :=
  match secret.metadata.resourceVersion with
  | none => s.store secret.name secret
  | some _ => { s with secrets := s.secrets.insert secret.name secret }

/-- Takes a secret off the shelf. -/
def delete (s : Shelf) (name : String) : Shelf := { s with secrets := s.secrets.erase name }

/-- The secret of a name. -/
def get (s : Shelf) (name : String) : Except Refusal Secret :=
  match s.secrets.get? name with
  | some secret => .ok secret
  | none => .error (.notFound name)

/-- The name under which a secret would be created: its own, or its prefix completed. -/
def nameFor (s : Shelf) (secret : Secret) : String :=
  if secret.name.isEmpty then
    secret.metadata.generateName.getD "" ++ generatedNumber (s.generated + 1)
  else secret.name

/-- The shelf after a name was chosen for a secret. -/
def countName (s : Shelf) (secret : Secret) : Shelf :=
  if secret.name.isEmpty then { s with generated := s.generated + 1 } else s

/-- Creates a secret in the namespace `ns`. -/
def create (s : Shelf) (ns : String) (secret : Secret) : Except Refusal Secret × Shelf :=
  let name := s.nameFor secret
  let s' := s.countName secret
  if s'.secrets.contains name then (.error (.alreadyExists name), s')
  else
    let named := { secret with
      metadata := { secret.metadata with name := some name, ns := some ns } }
    (.ok (s'.stamped named), s'.store name named)

/-- Whether the version that a secret carries, if it does, is that of the stored one. -/
def upToDate (secret stored : Secret) : Bool :=
  match secret.metadata.resourceVersion with
  | some version => stored.metadata.resourceVersion == some version
  | none => true

/-- Replaces the secret of a name. -/
def update (s : Shelf) (name : String) (secret : Secret) : Except Refusal Secret × Shelf :=
  match s.secrets.get? name with
  | none => (.error (.notFound name), s)
  | some stored =>
    if upToDate secret stored then (.ok (s.stamped secret), s.store name secret)
    else (.error (.conflict name), s)

/-- The secrets that pass a filter, in the order of their names. -/
def list (s : Shelf) (filter : ListFilter) : List Secret :=
  s.secrets.values.filter fun secret => filter.accepts secret.metadata

end Shelf

end SecretSync
