import SecretSync.Document

/-!
# `SecretSync.Resource.Schema`: schemas of resources

A schema says what a field of a resource holds: a text, texts by name, a list
or an object with named parts. It is written as an OpenAPI schema whose
fields are in alphabetical order.
-/

set_option autoImplicit false

namespace SecretSync

/-- What a schema says besides the type. -/
structure SchemaNotes where
  title : Option String := none
  description : Option String := none
  /-- The value that stands in for one that is left out. -/
  fallback : Option Json := none
  nullable : Bool := false

/-- What a field holds. -/
inductive Schema where
  | text (notes : SchemaNotes)
  /-- Texts by name. -/
  | textMap (notes : SchemaNotes)
  | list (notes : SchemaNotes) (item : Schema)
  | object (notes : SchemaNotes) (parts : List (String × Schema)) (required : List String)

namespace Schema

/-- The fields that come before `items`. -/
def leading (n : SchemaNotes) : List (String × Json) :=
  Json.optionalField "default" id n.fallback ++
    Json.optionalField "description" Json.str n.description

/-- The field that marks optional values. -/
def nullable (n : SchemaNotes) : List (String × Json) :=
  if n.nullable then [("nullable", .bool true)] else []

/-- The fields that come last. -/
def trailing (n : SchemaNotes) (type : String) : List (String × Json) :=
  Json.optionalField "title" Json.str n.title ++ [("type", .str type)]

/-- The field that lists the parts that must be given. -/
def requiredField (names : List String) : List (String × Json) :=
  if names.isEmpty then [] else [("required", .arr (names.map Json.str))]

mutual

/-- The written form of a schema. -/
def toJson : Schema → Json
  | .text n => .obj (leading n ++ nullable n ++ trailing n "string")
  | .textMap n =>
    .obj ([("additionalProperties", .obj [("type", .str "string")])] ++ leading n ++ nullable n ++
      trailing n "object")
  | .list n item =>
    .obj (leading n ++ [("items", item.toJson)] ++ nullable n ++ trailing n "array")
  | .object n parts required =>
    .obj (leading n ++ nullable n ++ [("properties", .obj (partsToJson parts))] ++
      requiredField required ++ trailing n "object")

/-- The written form of the parts of an object. -/
def partsToJson : List (String × Schema) → List (String × Json)
  | [] => []
  | (name, part) :: rest => (name, part.toJson) :: partsToJson rest

end

end Schema

end SecretSync
