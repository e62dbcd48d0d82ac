import SecretSync.Document

/-!
# `SecretSync.Resource.ObjectMeta`: the metadata of a stored object

Name, namespace, version, labels and annotations of an object. Every field
may be absent, and a map that is present and empty is not the same as one
that is absent: both are written back as they were read.
-/

set_option autoImplicit false

namespace SecretSync

/-- The metadata of an object. -/
structure ObjectMeta where
  name : Option String := none
  generateName : Option String := none
  ns : Option String := none
  uid : Option String := none
  resourceVersion : Option String := none
  labels : Option (SortedMap String) := none
  annotations : Option (SortedMap String) := none
  deriving DecidableEq, Inhabited

namespace ObjectMeta

/-- The labels, none if the map is absent. -/
def labelMap (m : ObjectMeta) : SortedMap String := m.labels.getD .empty

/-- The annotations, none if the map is absent. -/
def annotationMap (m : ObjectMeta) : SortedMap String := m.annotations.getD .empty

/-- The name, empty if there is none. -/
def nameText (m : ObjectMeta) : String := m.name.getD ""

/-- The namespace, empty if there is none. -/
def nsText (m : ObjectMeta) : String := m.ns.getD ""

/-- Reads metadata; of a field that is given twice the last counts. -/
def ofDocument? {δ : Type} [Document δ] (d : δ) : Option ObjectMeta := do
  let fields ← Document.fields? d
  let text (name : String) := Document.optional Document.text? (Document.findField name fields)
  let texts (name : String) := Document.optional Document.textMap? (Document.findField name fields)
  pure {
    name := ← text "name"
    generateName := ← text "generateName"
    ns := ← text "namespace"
    uid := ← text "uid"
    resourceVersion := ← text "resourceVersion"
    labels := ← texts "labels"
    annotations := ← texts "annotations"
  }

/-- The written form, absent fields left out. -/
def toJson (m : ObjectMeta) : Json :=
  .obj <|
    Json.optionalField "annotations" Json.ofTextMap m.annotations ++
    Json.optionalField "generateName" Json.str m.generateName ++
    Json.optionalField "labels" Json.ofTextMap m.labels ++
    Json.optionalField "name" Json.str m.name ++
    Json.optionalField "namespace" Json.str m.ns ++
    Json.optionalField "resourceVersion" Json.str m.resourceVersion ++
    Json.optionalField "uid" Json.str m.uid

end ObjectMeta

end SecretSync
