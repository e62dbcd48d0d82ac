import SecretSync.ListFilter
import SecretSync.Ownership.Tags

/-!
# `SecretSync.Ownership.Marker`: marking objects with their owners

Any number of owners may *reference* an object, at most one *manages* it, and
managing implies referencing. A `Marker` is the capability to read and change
that record in the metadata of an object; `Marker.ofTags` is the one that
keeps it in the ownership tags.

An owner whose key holds the delimiter of the referenced set is refused. A
change that would make the annotations larger than a cluster accepts is
refused too. The metadata is changed in place (`Edit`), and all that may be
refused is looked at before it is written to.
-/

set_option autoImplicit false

namespace SecretSync

/-- Why a marker refuses. -/
inductive MarkerError where
  /-- The key cannot be an entry of the referenced set. -/
  | invalidOwnerKey (key : String)
  /-- The annotations would become larger than the limit. -/
  | annotationsTooLarge (size limit : Nat)
  deriving DecidableEq, Repr

/-- The text of a refusal. -/
def MarkerError.message : MarkerError → String
  | .invalidOwnerKey key => "owner key '" ++ key ++ "' cannot be stored in the referenced set"
  | .annotationsTooLarge size limit =>
    "annotations would grow to " ++ toString size ++ " bytes, exceeding the limit of " ++
      toString limit ++ " bytes"

/-- The metadata after a marker operation, and whether the operation changed it. -/
structure Marked where
  changed : Bool
  metadata : ObjectMeta
  deriving DecidableEq

/-- A change of the metadata of an object in place. It reports whether anything changed, or refuses;
what it has written by then stays written. -/
abbrev Edit := ExceptT MarkerError (StateM ObjectMeta) Bool

namespace Edit

/-- What the edit answers on some metadata, and the metadata as it leaves it. -/
def on (e : Edit) (m : ObjectMeta) : Except MarkerError Bool × ObjectMeta := e.run.run m

/-- The edit of a copy, which is given up with a refusal. -/
def mark (e : Edit) (m : ObjectMeta) : Except MarkerError Marked :=
  match e.on m with
  | (.ok changed, m') => .ok ⟨changed, m'⟩
  | (.error e, _) => .error e

end Edit

/-- The capability to record owners in metadata. -/
structure Marker where
  /-- Whether the owner references and manages the object. -/
  isManagedBy : OwnerKey → ObjectMeta → Except MarkerError Bool
  /-- Whether the owner is among those that reference the object. -/
  isReferencedBy : OwnerKey → ObjectMeta → Except MarkerError Bool
  /-- A filter that no object managed by the owner fails. -/
  managedFilter : OwnerKey → Except MarkerError ListFilter
  /-- A filter that no object referenced by the owner fails. -/
  referencedFilter : OwnerKey → Except MarkerError ListFilter
  /-- Makes the owner reference and manage the object. -/
  markManaged : OwnerKey → ObjectMeta → Except MarkerError Marked
  /-- Makes the owner reference the object. -/
  markReferenced : OwnerKey → ObjectMeta → Except MarkerError Marked
  /-- Ends the management by the owner; nothing happens if another one manages the object. -/
  unmarkManaged : OwnerKey → ObjectMeta → Except MarkerError Marked
  /-- Ends the reference, and with it the management, by the owner. -/
  unmarkReferenced : OwnerKey → ObjectMeta → Except MarkerError Marked

namespace Ownership

/-- The form in which a key is stored; a key with the delimiter has none. -/
def storedKey (owner : OwnerKey) : Except MarkerError String :=
  if ReferencedSet.delimiter ∈ owner.toString.toList then
    .error (.invalidOwnerKey owner.toString)
  else .ok owner.toString

/-- Applies a change to the tags of an object. An object that would not change is left as it is,
and one whose annotations would be too large is refused, before anything is written. -/
def updateTags (f : Tags → Tags × Bool) : Edit := do
  let (t, changed) := f (Tags.ofMetadata (← get))
  if !changed then return false
  let size := annotationBytes t.annotations
  if size > annotationLimit then throw (.annotationsTooLarge size annotationLimit)
  modify t.writeTo
  return true

/-- Applies a change to the tags of an object that is about an owner. -/
def updateFor (owner : OwnerKey) (f : String → Tags → Tags × Bool) : Edit := do
  let key ← storedKey owner
  updateTags (f key)

/-- Whether the owner is among those that reference the object. -/
def isReferencedBy (owner : OwnerKey) (m : ObjectMeta) : Except MarkerError Bool := do
  let key ← storedKey owner
  let t := Tags.ofMetadata m
  pure (t.isLinked && t.references.contains key)

/-- Whether the owner references and manages the object. -/
def isManagedBy (owner : OwnerKey) (m : ObjectMeta) : Except MarkerError Bool := do
  let key ← storedKey owner
  if ← isReferencedBy owner m then pure ((Tags.ofMetadata m).manager == some key)
  else pure false

/-- The filter for objects that some owner references. -/
def linkedFilter : ListFilter := ListFilter.empty.withLabel linkedLabel linkedValue

/-- The filter that finds the objects of an owner. -/
def ownerFilter (owner : OwnerKey) : Except MarkerError ListFilter := do
  let _ ← storedKey owner
  pure linkedFilter

/-- Makes the owner reference and manage the object. -/
def markManaged (owner : OwnerKey) (m : ObjectMeta) : Except MarkerError Marked :=
  (updateFor owner fun key t => t.addManager key).mark m

/-- Makes the owner reference the object. -/
def markReferenced (owner : OwnerKey) (m : ObjectMeta) : Except MarkerError Marked :=
  (updateFor owner fun key t => t.addReference key).mark m

/-- Ends the management by the owner. -/
def unmarkManaged (owner : OwnerKey) (m : ObjectMeta) : Except MarkerError Marked :=
  (updateFor owner fun key t => t.removeManager key).mark m

/-- Ends the reference by the owner. -/
def unmarkReferenced (owner : OwnerKey) (m : ObjectMeta) : Except MarkerError Marked :=
  (updateFor owner fun key t => t.removeReference key).mark m

/-- The entries that the object is referenced by, in stored order. -/
def referenceEntries (m : ObjectMeta) : List String := (Tags.ofMetadata m).references.entries

/-- The owners that reference the object; entries that are no owner keys are left out. -/
def owners (m : ObjectMeta) : List OwnerKey := (referenceEntries m).filterMap OwnerKey.parse?

/-- The entries that are no owner keys. -/
def malformedEntries (m : ObjectMeta) : List String :=
  (referenceEntries m).filter fun e => (OwnerKey.parse? e).isNone

end Ownership

/-- The marker that keeps its record in the ownership tags. -/
def Marker.ofTags : Marker where
  isManagedBy := Ownership.isManagedBy
  isReferencedBy := Ownership.isReferencedBy
  managedFilter := Ownership.ownerFilter
  referencedFilter := Ownership.ownerFilter
  markManaged := Ownership.markManaged
  markReferenced := Ownership.markReferenced
  unmarkManaged := Ownership.unmarkManaged
  unmarkReferenced := Ownership.unmarkReferenced

end SecretSync
