import SecretSync.Text.Segments

/-!
# `SecretSync.OwnerKey`: the identity of an owner

A secret is owned by resources, and a resource is known by its namespace and
its name. The written form puts a slash between them. Reading splits at the
first slash, so a key reads back from its written form whenever its namespace
has no slash (`parse?_toString`).
-/

set_option autoImplicit false

namespace SecretSync

/-- The namespace and the name of a resource. -/
structure OwnerKey where
  ns : String
  name : String
  deriving DecidableEq, Repr, Inhabited

namespace OwnerKey

/-- What stands between namespace and name. -/
def separator : Char := '/'

/-- The written form `namespace/name`. -/
def toString (k : OwnerKey) : String := k.ns ++ "/" ++ k.name

instance : ToString OwnerKey := ⟨toString⟩

/-- Reads the written form; a text without a slash is no key. -/
def parse? (text : String) : Option OwnerKey :=
  (Text.splitOnce separator text).map fun p => ⟨p.1, p.2⟩

/-- The complaint about a text that is no key. -/
def malformed (text : String) : String :=
  "'" ++ text ++ "' is not in the <namespace>/<name> form"

/-- Keys are ordered by namespace, then by name. -/
def lt (a b : OwnerKey) : Bool :=
  decide (a.ns < b.ns) || (a.ns == b.ns && decide (a.name < b.name))

/-- Puts a key in its place in a sorted list, unless it is there already. -/
def insertSorted (k : OwnerKey) : List OwnerKey → List OwnerKey
  | [] => [k]
  | x :: rest => if k = x then x :: rest else if lt k x then k :: x :: rest
    else x :: insertSorted k rest

/-- The different keys of a list in order. -/
def sortUnique (keys : List OwnerKey) : List OwnerKey :=
  keys.foldl (fun sorted k => insertSorted k sorted) []

theorem toList_toString (k : OwnerKey) :
    k.toString.toList = k.ns.toList ++ separator :: k.name.toList := by
  unfold toString
  simp [String.toList_append, separator]

theorem parse?_toString {k : OwnerKey} (h : separator ∉ k.ns.toList) :
    parse? k.toString = some k := by
  unfold parse? Text.splitOnce
  rw [Text.splitFirst_eq_some_iff.2 ⟨toList_toString k, h⟩]
  simp

theorem toString_parse? {text : String} {k : OwnerKey} (h : parse? text = some k) :
    k.toString = text := by
  unfold parse? Text.splitOnce at h
  simp only [Option.map_map, Option.map_eq_some_iff, Function.comp] at h
  obtain ⟨p, hp, rfl⟩ := h
  obtain ⟨ht, -⟩ := Text.splitFirst_eq_some_iff.1 hp
  rw [← String.toList_inj, toList_toString, ht]
  simp

end OwnerKey

end SecretSync
