import SecretSync.Text.Blank
import SecretSync.Text.Segments

/-!
# `SecretSync.ReferencedSet`: owners in one metadata value

The keys of all owners of an object are stored in one annotation, separated
by commas. The delimiter is not escaped, so keys that contain one must never
be stored. Values that somebody else wrote are tolerated: the blanks around a
segment are taken off, empty segments and repetitions are dropped, and
anything else is an entry.

The entries keep the order of their first occurrence.
-/

set_option autoImplicit false

namespace SecretSync

/-- The entries of a referenced-set value, without repetition, oldest first. -/
structure ReferencedSet where
  entries : List String
  deriving DecidableEq, Repr, Inhabited

namespace ReferencedSet

/-- What stands between two entries. -/
def delimiter : Char := ','

/-- The set without entries. -/
def empty : ReferencedSet := ⟨[]⟩

/-- Whether the set has this entry. -/
def contains (s : ReferencedSet) (value : String) : Bool := s.entries.contains value

/-- The set with this entry; a new entry comes last. -/
def add (s : ReferencedSet) (value : String) : ReferencedSet :=
  if s.contains value then s else ⟨s.entries ++ [value]⟩

/-- The set without this entry. -/
def remove (s : ReferencedSet) (value : String) : ReferencedSet :=
  ⟨s.entries.filter (· != value)⟩

/-- Whether the set has no entry. -/
def isEmpty (s : ReferencedSet) : Bool := s.entries.isEmpty

/-- The number of entries. -/
def size (s : ReferencedSet) : Nat := s.entries.length

/-- The entries that a value lists: its trimmed segments, the empty ones left out. -/
def listed (value : String) : List String :=
  ((Text.splitAll delimiter value).map Text.trim).filter (· != "")

/-- Reads a stored value. -/
def parse (value : String) : ReferencedSet := (listed value).foldl add empty

/-- The value to store: the entries with commas between them. -/
def toString (s : ReferencedSet) : String :=
  String.ofList (Text.joinWith delimiter (s.entries.map String.toList))

instance : ToString ReferencedSet := ⟨toString⟩

end ReferencedSet

end SecretSync
