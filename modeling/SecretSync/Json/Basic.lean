/-!
# `SecretSync.Json`: JSON values

Resources travel as JSON. An object keeps its fields in the order in which
they were written, also when a name occurs twice; looking a name up finds the
last field of that name. A number keeps the literal it was written with, so
passing a document on does not change it.
-/

set_option autoImplicit false

namespace SecretSync

/-- A JSON value. -/
inductive Json where
  | null
  | bool (value : Bool)
  /-- A number, by the literal that stands for it. -/
  | num (literal : String)
  | str (value : String)
  | arr (items : List Json)
  | obj (fields : List (String × Json))
  deriving Inhabited

namespace Json

/-- The number literal of a natural number. -/
def ofNat (n : Nat) : Json := .num (toString n)

/-- The last field of this name in a list of fields. -/
def findField (name : String) (fields : List (String × Json)) : Option Json :=
  fields.foldl (fun found f => if f.1 = name then some f.2 else found) none

/-- The field of an object; nothing for any other value. -/
def field? (name : String) : Json → Option Json
  | .obj fields => findField name fields
  | _ => none

/-- The text of a string value. -/
def str? : Json → Option String
  | .str s => some s
  | _ => none

/-- The value of a truth value. -/
def bool? : Json → Option Bool
  | .bool b => some b
  | _ => none

/-- The items of an array. -/
def arr? : Json → Option (List Json)
  | .arr items => some items
  | _ => none

/-- The fields of an object. -/
def obj? : Json → Option (List (String × Json))
  | .obj fields => some fields
  | _ => none

/-- The number of a literal that consists of digits only. -/
def nat? : Json → Option Nat
  | .num literal =>
    let digits := literal.toList
    if digits.all Char.isDigit && !digits.isEmpty then
      some (digits.foldl (fun n d => n * 10 + (d.toNat - '0'.toNat)) 0)
    else none
  | _ => none

/-- Whether the value is `null`. -/
def isNull : Json → Bool
  | .null => true
  | _ => false

end Json

end SecretSync
