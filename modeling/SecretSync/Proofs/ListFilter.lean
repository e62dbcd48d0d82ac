import SecretSync.ListFilter
import SecretSync.Proofs.Text.Segments

/-!
# `SecretSync.Proofs.ListFilter`: filters as selector texts

A filter travels to the server as its selector text. The server reads the same
filter from it (`ofSelector_selector`) if the text can be taken apart again,
which it can if the labels are `Legible`. Valid labels are, because neither
their keys nor their values hold an equals sign or a comma.
-/

set_option autoImplicit false

namespace SecretSync.ListFilter

/-- A filter with labels that a selector text can hold. -/
def Legible (f : ListFilter) : Prop :=
  ∀ e ∈ f.labels.entries, ('=' ∉ e.1.toList ∧ ',' ∉ e.1.toList) ∧ ',' ∉ e.2.toList

instance (f : ListFilter) : Decidable f.Legible :=
  inferInstanceAs (Decidable
    (∀ e ∈ f.labels.entries, ('=' ∉ e.1.toList ∧ ',' ∉ e.1.toList) ∧ ',' ∉ e.2.toList))

/-- The part of a selector for a label. -/
def part (e : String × String) : String := e.1 ++ "=" ++ e.2

theorem toList_part (e : String × String) : (part e).toList = e.1.toList ++ '=' :: e.2.toList := by
  unfold part
  rw [String.toList_append, String.toList_append, List.append_assoc]
  rfl

theorem part_ne_empty (e : String × String) : part e ≠ "" := by
  intro h
  have hlist := toList_part e
  rw [h] at hlist
  exact nomatch List.append_eq_nil_iff.1 hlist.symm

/-- A part is split at its first equals sign. -/
theorem splitOnce_part {e : String × String} (h : '=' ∉ e.1.toList) :
    Text.splitOnce '=' (part e) = some e := by
  have hfirst : Text.splitFirst '=' (part e).toList = some (e.1.toList, e.2.toList) :=
    Text.splitFirst_eq_some_iff.2 ⟨toList_part e, h⟩
  unfold Text.splitOnce
  rw [hfirst, Option.map_some, String.ofList_toList, String.ofList_toList]

/-- Adding labels one after the other. -/
theorem ofLabels_eq (labels : List (String × String)) :
    ofLabels labels = ⟨SortedMap.ofList labels⟩ := by
  have hfold : ∀ (labels : List (String × String)) (f : ListFilter),
      labels.foldl (fun f l => f.withLabel l.1 l.2) f = ⟨f.labels.insertAll labels⟩ := by
    intro labels
    induction labels with
    | nil =>
      intro f
      rfl
    | cons l rest ih =>
      intro f
      exact ih (f.withLabel l.1 l.2)
  exact hfold labels empty

/-- The parts between the commas of a selector are those of the labels; the selector of the empty
filter has one empty part. -/
theorem parts_selector {f : ListFilter} (h : f.Legible) :
    (Text.splitAll ',' f.selector).filter (· != "") = f.labels.entries.map part := by
  cases hentries : f.labels.entries with
  | nil =>
    unfold selector
    rw [hentries]
    decide
  | cons e rest =>
    have hselector : f.selector.toList
        = Text.joinWith ',' ((f.labels.entries.map part).map String.toList) :=
      Text.toList_intercalate rfl _
    have hfree : ∀ text ∈ f.labels.entries.map part, ',' ∉ text.toList := by
      intro text htext hmem
      obtain ⟨e, he, rfl⟩ := List.mem_map.1 htext
      rw [toList_part] at hmem
      rcases List.mem_append.1 hmem with hmem | hmem
      · exact (h e he).1.2 hmem
      · rcases List.mem_cons.1 hmem with hmem | hmem
        · cases hmem
        · exact (h e he).2 hmem
    rw [Text.splitAll_joined hselector (by simp [hentries]) hfree, hentries]
    refine List.filter_eq_self.2 fun text htext => ?_
    obtain ⟨e, -, rfl⟩ := List.mem_map.1 htext
    simpa using part_ne_empty e

/-- A legible filter is read back from its selector. -/
theorem ofSelector_selector {f : ListFilter} (h : f.Legible) : ofSelector f.selector = f := by
  unfold ofSelector
  rw [parts_selector h, List.map_map, ofLabels_eq]
  have hread : f.labels.entries.map
      ((fun text => (Text.splitOnce '=' text).getD (text, "")) ∘ part) = f.labels.entries := by
    refine (List.map_congr_left fun e he => ?_).trans (List.map_id _)
    show (Text.splitOnce '=' (part e)).getD (part e, "") = e
    rw [splitOnce_part (h e he).1.1]
    rfl
  rw [hread, SortedMap.ofList_entries]

end SecretSync.ListFilter
