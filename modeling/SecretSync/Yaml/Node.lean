import SecretSync.Document

/-!
# `SecretSync.Yaml.Node`: YAML documents

A YAML document is a tree of scalars, lists and maps. A scalar is its text,
and whether it was written plainly or in quotes. Only a plain scalar can
stand for no value, and an empty plain scalar can stand for an empty list or
map; as a text, every scalar is just its text.
-/

set_option autoImplicit false

namespace SecretSync

namespace Yaml

/-- A node of a YAML document. -/
inductive Node where
  | scalar (text : String) (isPlain : Bool)
  | list (items : List Node)
  | map (entries : List (Node × Node))
  deriving Inhabited

namespace Node

/-- The node of a value that is left out. -/
def absent : Node := .scalar "" true

/-- Whether the node was left out. -/
def isAbsent : Node → Bool
  | .scalar text isPlain => isPlain && text.isEmpty
  | _ => false

/-- The plain scalars that stand for no value, besides the empty one. -/
def nullWords : List String := ["null", "Null", "NULL", "~"]

/-- Whether the node stands for no value. -/
def isNull : Node → Bool
  | .scalar text isPlain => isPlain && (text.isEmpty || nullWords.contains text)
  | _ => false

/-- The text of a scalar. -/
def text? : Node → Option String
  | .scalar text _ => some text
  | _ => none

/-- The items of a list. -/
def items? (n : Node) : Option (List Node) :=
  match n with
  | .list items => some items
  | n => if n.isAbsent then some [] else none

/-- The entries of a map whose keys are all scalars. -/
def fields? (n : Node) : Option (List (String × Node)) :=
  match n with
  | .map entries => entries.mapM fun e => e.1.text?.map fun name => (name, e.2)
  | n => if n.isAbsent then some [] else none

end Node

instance : Document Node where
  isNull := Node.isNull
  text? := Node.text?
  items? := Node.items?
  fields? := Node.fields?

end Yaml

end SecretSync
