import SecretSync.OwnerKey
import SecretSync.SortedMap

/-!
# `SecretSync.Binding.Target`: where a secret goes and how it should look

A deployment target is a namespace in which the secret of an owner is
materialized. It carries the wanted shape of the secret and the name under
which an earlier sync stored it, if there was one.

The wanted name is either fixed or left to the store, which completes a
prefix. `corresponds` decides whether a name that was given earlier still
fits.
-/

set_option autoImplicit false

namespace SecretSync

/-- The wanted shape of a secret. -/
structure SecretSpec where
  /-- The fixed name; if it is empty the store generates one. -/
  name : String := ""
  /-- The prefix of a generated name. -/
  generateName : String := ""
  type : Option String := none
  labels : SortedMap String := .empty
  annotations : SortedMap String := .empty
  deriving DecidableEq, Inhabited

/-- Whether a name is the wanted fixed name or, when no name is fixed, begins with the wanted
prefix. -/
def nameCorresponds (existing name generateName : String) : Bool :=
  if name.isEmpty then generateName.toList.isPrefixOf existing.toList
  else existing == name

/-- What a generated name begins with when the shape of the secret does not say. -/
def generatedNameSuffix : String := "-secret-"

/-- A namespace in which the secret of an owner is materialized. -/
structure DeploymentTarget where
  /-- The kind of target, for messages. -/
  kind : String
  spec : SecretSpec
  ns : String
  owner : OwnerKey
  /-- The name under which an earlier sync stored the secret. -/
  recordedName : Option String

namespace DeploymentTarget

/-- The kind of target that is a namespace of the same cluster. -/
def namespaceKind : String := "namespace"

/-- A target in a namespace of the same cluster; an empty recorded name is none. -/
def inNamespace (spec : SecretSpec) (ns : String) (owner : OwnerKey) (recordedName : String) :
    DeploymentTarget where
  kind := namespaceKind
  spec := spec
  ns := ns
  owner := owner
  recordedName := if recordedName.isEmpty then none else some recordedName

/-- The recorded name, unless it is empty. -/
def previousName (t : DeploymentTarget) : Option String := t.recordedName.filter (!·.isEmpty)

/-- The name to write: the recorded one, or with `recreate` the wanted one. -/
def effectiveName (t : DeploymentTarget) (recreate : Bool) : String :=
  if recreate then t.spec.name else t.previousName.getD t.spec.name

/-- The prefix of a generated name. -/
def effectiveGenerateName (t : DeploymentTarget) : String :=
  if t.spec.generateName.isEmpty then t.owner.name ++ generatedNameSuffix
  else t.spec.generateName

/-- Whether a name still fits the wanted shape. -/
def corresponds (t : DeploymentTarget) (name : String) : Bool :=
  nameCorresponds name t.spec.name t.spec.generateName

end DeploymentTarget

end SecretSync
