import SecretSync.Resource.ObjectMeta
import SecretSync.Text.Segments

/-!
# `SecretSync.ListFilter`: choosing objects by their labels

A filter asks for labels with given values. A store that can evaluate label
selectors gets the filter as its selector text, `key=value` parts in key order
with commas between them, and reads it back by `ofSelector`; `accepts` is the
same question asked of the metadata of one object.
-/

set_option autoImplicit false

namespace SecretSync

/-- The labels that an object must carry. -/
structure ListFilter where
  labels : SortedMap String := .empty
  deriving DecidableEq, Inhabited

namespace ListFilter

/-- The filter that every object passes. -/
def empty : ListFilter := {}

/-- Asks for one more label; a value asked for before is replaced. -/
def withLabel (f : ListFilter) (key value : String) : ListFilter := ⟨f.labels.insert key value⟩

/-- The filter for the labels of a list, added one after the other. -/
def ofLabels (labels : List (String × String)) : ListFilter :=
  labels.foldl (fun f l => f.withLabel l.1 l.2) empty

/-- The selector text of the filter. -/
def selector (f : ListFilter) : String :=
  ",".intercalate (f.labels.entries.map fun e => e.1 ++ "=" ++ e.2)

/-- The filter of a selector text; a part without an equals sign asks for an empty value. -/
def ofSelector (selector : String) : ListFilter :=
  ofLabels <| ((Text.splitAll ',' selector).filter (· != "")).map fun part =>
    (Text.splitOnce '=' part).getD (part, "")

/-- Whether an object carries all the labels. -/
def accepts (f : ListFilter) (m : ObjectMeta) : Bool :=
  f.labels.all fun key value => m.labelMap.get? key == some value

end ListFilter

end SecretSync
