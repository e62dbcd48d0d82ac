import Mathlib.Data.List.Basic
import SecretSync.Proofs.ListFilter
import SecretSync.Proofs.SortedMap

/-!
# `SecretSync.Proofs.ListFilter.Selector`: the selector text determines the filter

A server evaluates the selector text of a filter, and a client evaluates its
labels. `labelsOf` is the plain reading of the text: cut it at the commas, and
each part at its first equals sign.

`labelsOf_selector` says that this reading gives the labels of the filter, in
key order and each key once. So two filters with one text have the same labels
(`labels_eq_of_selector_eq`), and `accepts_iff` turns the question that the
client asks into the one that the server asks. Both are about filters that are
`Legible`, which a filter is that was built from `Separable` labels
(`legible_ofLabels`).

The filter of a list of labels holds the last value of each key, whatever the
order of the list (`get?_ofLabels`). `selector_determines` puts the parts
together. An empty key is no exception in any of this.
-/

set_option autoImplicit false

namespace SecretSync.ListFilter

/-- The labels that a selector text asks for. The text of the empty filter has one part, which is
empty and without an equals sign, so it asks for no label. -/
def labelsOf (selector : String) : List (String × String) :=
  (Text.splitAll ',' selector).filterMap (Text.splitOnce '=')

/-- Labels whose keys hold no equals sign and no comma, and whose values hold no comma. -/
def Separable (labels : List (String × String)) : Prop :=
  ∀ l ∈ labels, ('=' ∉ l.1.toList ∧ ',' ∉ l.1.toList) ∧ ',' ∉ l.2.toList

instance (labels : List (String × String)) : Decidable (Separable labels) :=
  inferInstanceAs (Decidable
    (∀ l ∈ labels, ('=' ∉ l.1.toList ∧ ',' ∉ l.1.toList) ∧ ',' ∉ l.2.toList))

/-! ### Filters of lists of labels -/

/-- Of the values that a key was given, the last one is asked for. -/
theorem get?_ofLabels (labels : List (String × String)) (key : String) :
    (ofLabels labels).labels.get? key = labels.reverse.lookup key := by
  rw [ofLabels_eq]
  exact SortedMap.get?_ofList labels key

theorem labels_ofLabels_eq_iff (labels labels' : List (String × String)) :
    (ofLabels labels).labels = (ofLabels labels').labels
      ↔ ∀ key, labels.reverse.lookup key = labels'.reverse.lookup key := by
  rw [ofLabels_eq, ofLabels_eq]
  exact SortedMap.ofList_eq_iff

theorem legible_ofLabels {labels : List (String × String)} (h : Separable labels) :
    (ofLabels labels).Legible := by
  intro e he
  rw [ofLabels_eq] at he
  exact h e (SortedMap.mem_of_mem_ofList he)

/-! ### Reading the text -/

/-- The text of a legible filter is read as its labels in key order. -/
theorem labelsOf_selector {f : ListFilter} (h : f.Legible) :
    labelsOf f.selector = f.labels.entries := by
  -- The empty part of the empty filter may be left out: it asks for nothing.
  have hempty : ∀ text : String,
      (if (text != "") = true then Text.splitOnce '=' text else none)
        = Text.splitOnce '=' text := by
    intro text
    by_cases htext : text = ""
    · subst htext
      decide
    · simp [htext]
  have hparts : labelsOf f.selector
      = (f.labels.entries.map part).filterMap (Text.splitOnce '=') := by
    rw [← parts_selector h, List.filterMap_filter]
    exact congrArg (fun read => (Text.splitAll ',' f.selector).filterMap read)
      (funext hempty).symm
  have hread : ∀ e ∈ f.labels.entries, Text.splitOnce '=' (part e) = some e := by
    intro e he
    exact splitOnce_part (h e he).1.1
  rw [hparts, List.filterMap_map]
  exact (List.filterMap_congr hread).trans List.filterMap_some

/-- Filters with the same text have the same labels. -/
theorem labels_eq_of_selector_eq {f f' : ListFilter} (h : f.Legible) (h' : f'.Legible)
    (hselector : f.selector = f'.selector) : f.labels = f'.labels := by
  have hentries : f.labels.entries = f'.labels.entries := by
    rw [← labelsOf_selector h, hselector, labelsOf_selector h']
  rw [← SortedMap.ofList_entries f.labels, hentries, SortedMap.ofList_entries]

/-- An object is accepted if it has every label of the filter. -/
theorem accepts_iff (f : ListFilter) (m : ObjectMeta) :
    f.accepts m = true ↔ ∀ l ∈ f.labels.entries, m.labelMap.get? l.1 = some l.2 := by
  unfold accepts SortedMap.all
  simp

/-- The text of a filter and its labels determine each other, and the text asks of every object what
the labels ask. This is for filters built label by label: the order does not matter and the last
value of a key counts, so that two lists of labels give the same text when every key has the same
last value in both. -/
theorem selector_determines {labels labels' : List (String × String)} (h : Separable labels)
    (h' : Separable labels') :
    ((ofLabels labels).selector = (ofLabels labels').selector
      ↔ (ofLabels labels).labels = (ofLabels labels').labels)
    ∧ ((ofLabels labels).labels = (ofLabels labels').labels
      ↔ ∀ key, labels.reverse.lookup key = labels'.reverse.lookup key)
    ∧ ((ofLabels labels).selector = (ofLabels labels').selector →
      ∀ m, (ofLabels labels).accepts m = (ofLabels labels').accepts m)
    ∧ ∀ m, (ofLabels labels).accepts m = true
      ↔ ∀ l ∈ labelsOf (ofLabels labels).selector, m.labelMap.get? l.1 = some l.2 := by
  have hlegible := legible_ofLabels h
  have hsame : (ofLabels labels).selector = (ofLabels labels').selector →
      (ofLabels labels).labels = (ofLabels labels').labels :=
    labels_eq_of_selector_eq hlegible (legible_ofLabels h')
  refine ⟨⟨hsame, fun hlabels => ?_⟩, labels_ofLabels_eq_iff labels labels', fun hselector m => ?_,
    fun m => ?_⟩
  · unfold selector
    rw [hlabels]
  · unfold accepts
    rw [hsame hselector]
  · rw [labelsOf_selector hlegible]
    exact accepts_iff (ofLabels labels) m

/-- The last value of a key that is given twice is in the text, wherever it stands in the list. -/
theorem selector_determines_overridden :
    (ofLabels [("team", "a"), ("app", "x=1"), ("team", "b")]).selector
        = (ofLabels [("team", "b"), ("app", "x=1")]).selector
      ∧ (∀ m, (ofLabels [("team", "a"), ("app", "x=1"), ("team", "b")]).accepts m
        = (ofLabels [("team", "b"), ("app", "x=1")]).accepts m)
      ∧ ∀ m, (ofLabels [("team", "a"), ("app", "x=1"), ("team", "b")]).accepts m = true
        ↔ m.labelMap.get? "app" = some "x=1" ∧ m.labelMap.get? "team" = some "b" := by
  have hoverridden : Separable [("team", "a"), ("app", "x=1"), ("team", "b")] := by decide
  have hplain : Separable [("team", "b"), ("app", "x=1")] := by decide
  obtain ⟨-, -, haccepts, hread⟩ := selector_determines hoverridden hplain
  have hselector : (ofLabels [("team", "a"), ("app", "x=1"), ("team", "b")]).selector
      = (ofLabels [("team", "b"), ("app", "x=1")]).selector := by decide
  have hlabels : labelsOf (ofLabels [("team", "a"), ("app", "x=1"), ("team", "b")]).selector
      = [("app", "x=1"), ("team", "b")] := by decide
  refine ⟨hselector, haccepts hselector, fun m => ?_⟩
  rw [hread m, hlabels]
  simp

end SecretSync.ListFilter
