import SecretSync.Json.Basic

/-!
# `SecretSync.Json.MergePatch`: changing a document by a patch

A merge patch describes a change by example. Fields of the patch that are
null are removed from the document, objects are merged field by field, and
any other value takes the place of the old one.
-/

set_option autoImplicit false

namespace SecretSync.Json

/-- The fields without those of this name. -/
def removeField (name : String) (fields : List (String × Json)) : List (String × Json) :=
  fields.filter fun f => f.1 != name

/-- The fields with a value for this name, in its place if there was one. -/
def setField (name : String) (value : Json) : List (String × Json) → List (String × Json)
  | [] => [(name, value)]
  | f :: rest => if f.1 = name then (name, value) :: rest else f :: setField name value rest

/-- The fields of an object; other values have none. -/
def fieldsOf (j : Json) : List (String × Json) := j.obj?.getD []

mutual

/-- A document changed by a patch. -/
def mergePatch (document : Json) : Json → Json
  | .obj changes => .obj (mergeFields document.fieldsOf changes)
  | patch => patch

/-- The fields of an object changed by the fields of a patch. -/
def mergeFields (fields : List (String × Json)) : List (String × Json) → List (String × Json)
  | [] => fields
  | (name, patch) :: changes =>
    if patch.isNull then mergeFields (removeField name fields) changes
    else
      let old := (findField name fields).getD .null
      mergeFields (setField name (mergePatch old patch) fields) changes

end

end SecretSync.Json
