import SecretSync.Json.Basic
import SecretSync.SortedMap

/-!
# `SecretSync.Document`: the documents resources are read from

A resource arrives as JSON from a server and as YAML from a manifest. Both
are trees of scalars, lists and fields, and the readers of the resources are
written once, over the class `Document`. What differs is decided by the
instances: JSON tells strings from numbers, whereas in a manifest every
scalar is a text where a text is wanted.

The combinators say how a field may be given. A *required* field must be
there; a field with a *default* may be left out, but not be null; for an
*optional* field, null is the same as leaving it out.
-/

set_option autoImplicit false

namespace SecretSync

/-- Trees of scalars, lists and named fields. -/
class Document (δ : Type) where
  /-- Whether the tree stands for no value. -/
  isNull : δ → Bool
  /-- The text of a scalar. -/
  text? : δ → Option String
  /-- The items of a list. -/
  items? : δ → Option (List δ)
  /-- The fields, as written. -/
  fields? : δ → Option (List (String × δ))

instance : Document Json where
  isNull := Json.isNull
  text? := Json.str?
  items? := Json.arr?
  fields? := Json.obj?

namespace Document

variable {δ : Type} [Document δ] {α : Type}

/-- The last field of this name. -/
def findField (name : String) (fields : List (String × δ)) : Option δ :=
  fields.foldl (fun found f => if f.1 = name then some f.2 else found) none

/-- Whether none of the names is given more than once. -/
def eachOnce (names : List String) (fields : List (String × δ)) : Bool :=
  names.all fun name => (fields.filter fun f => f.1 == name).length ≤ 1

/-- The fields of a tree, refused if one of the known names is given twice. A reader derived from a
record type also takes the list of its values, in the order of the known names. That form is left
out: such a list is refused here. No record is ever written as one. -/
def knownFields? (names : List String) (d : δ) : Option (List (String × δ)) :=
  match fields? d with
  | some fields => if eachOnce names fields then some fields else none
  | none => none

/-- A field that must be given. -/
def required (read : δ → Option α) : Option δ → Option α
  | some d => read d
  | none => none

/-- A field that may be left out. -/
def withDefault (default : α) (read : δ → Option α) : Option δ → Option α
  | some d => read d
  | none => some default

/-- A field that may be left out or null. -/
def optional (read : δ → Option α) : Option δ → Option (Option α)
  | some d => if isNull d then some none else (read d).map some
  | none => some none

/-- A list of values. -/
def list? (read : δ → Option α) (d : δ) : Option (List α) :=
  match items? d with
  | some items => items.mapM read
  | none => none

/-- A map from names to texts; the last of a name wins. -/
def textMap? (d : δ) : Option (SortedMap String) :=
  match fields? d with
  | some fields =>
    (fields.mapM fun f => (text? f.2).map fun value => (f.1, value)).map SortedMap.ofList
  | none => none

end Document

namespace Json

/-- The object with one string field for every entry. -/
def ofTextMap (m : SortedMap String) : Json := .obj (m.entries.map fun e => (e.1, .str e.2))

/-- The field with this name if there is a value, no field otherwise. -/
def optionalField {α : Type} (name : String) (write : α → Json) : Option α → List (String × Json)
  | some value => [(name, write value)]
  | none => []

end Json

end SecretSync
