import SecretSync.OwnerKey
import SecretSync.ReferencedSet
import SecretSync.Resource.ObjectMeta

/-!
# `SecretSync.Ownership.Tags`: the metadata that records owners

Three tags on an object say who owns it:

* a label that is `true` while any owner references the object,
* an annotation with the keys of all owners that reference it,
* an annotation with the key of the one owner that manages it.

`Tags` holds the labels and annotations of an object, and the operations here
are what a marker does to them. Each gives the new tags and whether anything
changed; nothing is checked yet.
-/

set_option autoImplicit false

namespace SecretSync

/-- The label of objects that some owner references. -/
def linkedLabel : String := "remotesecret.dev/linked-by-remote-secret"

/-- The value of that label. -/
def linkedValue : String := "true"

/-- The annotation with the keys of all referencing owners. -/
def referencesAnnotation : String := "remotesecret.dev/linked-remote-secrets"

/-- The annotation with the key of the managing owner. -/
def managerAnnotation : String := "remotesecret.dev/managing-remote-secret"

/-- The largest total size of the annotations of an object, in bytes of keys and values. -/
def annotationLimit : Nat := 262144

/-- The total size of annotations: the bytes of all keys and values. -/
def annotationBytes (annotations : SortedMap String) : Nat :=
  annotations.entries.foldr (fun e size => e.1.utf8ByteSize + e.2.utf8ByteSize + size) 0

/-- The labels and annotations of an object. -/
structure Tags where
  labels : SortedMap String
  annotations : SortedMap String
  deriving DecidableEq

namespace Tags

/-- The tags of an object; absent maps are empty. -/
def ofMetadata (m : ObjectMeta) : Tags := ⟨m.labelMap, m.annotationMap⟩

/-- The object with these tags, both maps present. -/
def writeTo (t : Tags) (m : ObjectMeta) : ObjectMeta :=
  { m with labels := some t.labels, annotations := some t.annotations }

/-- Whether the label says that the object is referenced. -/
def isLinked (t : Tags) : Bool := t.labels.get? linkedLabel == some linkedValue

/-- The owners that reference the object. -/
def references (t : Tags) : ReferencedSet :=
  match t.annotations.get? referencesAnnotation with
  | some value => ReferencedSet.parse value
  | none => .empty

/-- The owner that manages the object. -/
def manager (t : Tags) : Option String := t.annotations.get? managerAnnotation

/-- Stores a set of references. -/
def setReferences (t : Tags) (s : ReferencedSet) : Tags :=
  { t with annotations := t.annotations.insert referencesAnnotation s.toString }

/-- Adds an owner to the references and sets the label. -/
def addReference (t : Tags) (key : String) : Tags × Bool :=
  let known := t.references.contains key
  let t' := if known then t else t.setReferences (t.references.add key)
  -- The label may be missing even if the owner is listed.
  if t'.isLinked then (t', !known)
  else ({ t' with labels := t'.labels.insert linkedLabel linkedValue }, true)

/-- Makes an owner the manager, in place of any other. -/
def setManager (t : Tags) (key : String) : Tags × Bool :=
  if t.manager = some key then (t, false)
  else ({ t with annotations := t.annotations.insert managerAnnotation key }, true)

/-- Ends the management by this owner; another manager stays. -/
def removeManager (t : Tags) (key : String) : Tags × Bool :=
  if t.manager = some key then
    ({ t with annotations := t.annotations.erase managerAnnotation }, true)
  else (t, false)

/-- Takes an owner out of the references, and the tags off with the last one. -/
def dropReference (t : Tags) (key : String) : Tags × Bool :=
  let rest := t.references.remove key
  -- Without references the tags go, also if the owner was not among them.
  if rest.isEmpty then
    (⟨t.labels.erase linkedLabel, t.annotations.erase referencesAnnotation⟩,
      t.annotations.contains referencesAnnotation || t.labels.contains linkedLabel)
  else if t.references.contains key then (t.setReferences rest, true)
  else (t, false)

/-- Takes an owner out of the references and ends its management. -/
def removeReference (t : Tags) (key : String) : Tags × Bool :=
  let (t₁, unmanaged) := t.removeManager key
  let (t₂, dropped) := t₁.dropReference key
  (t₂, unmanaged || dropped)

/-- Adds an owner to the references and makes it the manager. -/
def addManager (t : Tags) (key : String) : Tags × Bool :=
  let (t₁, referenced) := t.addReference key
  let (t₂, managed) := t₁.setManager key
  (t₂, referenced || managed)

end Tags

end SecretSync
