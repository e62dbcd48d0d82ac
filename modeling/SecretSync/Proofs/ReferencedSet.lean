import SecretSync.Proofs.Text.Segments
import SecretSync.ReferencedSet

/-!
# `SecretSync.Proofs.ReferencedSet`: reading and writing referenced-set values

`ReferencedSet.listed` says which entries a value lists, and `mem_parse` says
that reading keeps exactly those. No entry that was read holds the delimiter or
begins or ends with a blank (`free_of_mem_listed`, `trim_of_mem_listed`).

Writing and reading again trims the entries and drops the empty ones
(`listed_toString`). So what was read comes back, and a new entry comes back
trimmed: `mem_listed_add` is the statement that marking rests on, as unmarking
does on `mem_listed_remove`. A set whose entries are different and can all be
written reads back whole (`parse_toString`), and its text has a delimiter
between any two entries and nowhere else (`delimited_toString`).
-/

set_option autoImplicit false

namespace SecretSync

namespace ReferencedSet

theorem contains_iff (s : ReferencedSet) (e : String) : s.contains e = true ↔ e ∈ s.entries :=
  List.contains_iff_mem

/-! ### Reading -/

theorem mem_add (s : ReferencedSet) (e x : String) :
    x ∈ (s.add e).entries ↔ x ∈ s.entries ∨ x = e := by
  unfold add
  split
  · rename_i h
    constructor
    · exact .inl
    · rintro (hx | rfl)
      · exact hx
      · exact (contains_iff s x).1 h
  · rw [List.mem_append, List.mem_singleton]

theorem mem_foldl_add (values : List String) (s : ReferencedSet) (x : String) :
    x ∈ (values.foldl add s).entries ↔ x ∈ s.entries ∨ x ∈ values := by
  induction values generalizing s with
  | nil => simp
  | cons v rest ih => rw [List.foldl_cons, ih, mem_add, List.mem_cons, or_assoc]

/-- Reading keeps the entries that a value lists. -/
theorem mem_parse (value x : String) : x ∈ (parse value).entries ↔ x ∈ listed value := by
  unfold parse
  rw [mem_foldl_add]
  simp [empty]

theorem mem_listed {value x : String} :
    x ∈ listed value ↔ x ≠ "" ∧ ∃ piece ∈ Text.splitAll delimiter value, Text.trim piece = x := by
  unfold listed
  rw [List.mem_filter, List.mem_map, and_comm]
  simp

/-- No entry that was read holds the delimiter. -/
theorem free_of_mem_listed {value x : String} (h : x ∈ listed value) :
    delimiter ∉ x.toList := by
  obtain ⟨-, piece, hpiece, rfl⟩ := mem_listed.1 h
  obtain ⟨cs, hcs, rfl⟩ := List.mem_map.1 hpiece
  unfold Text.trim
  rw [String.toList_ofList, String.toList_ofList]
  intro hm
  exact Text.not_mem_of_mem_segments hcs (Text.mem_of_mem_trimChars hm)

/-- Every entry that was read is trimmed. -/
theorem trim_of_mem_listed {value x : String} (h : x ∈ listed value) : Text.trim x = x := by
  obtain ⟨-, piece, -, rfl⟩ := mem_listed.1 h
  exact Text.trim_trim piece

theorem ne_empty_of_mem_listed {value x : String} (h : x ∈ listed value) : x ≠ "" :=
  (mem_listed.1 h).1

/-! ### Writing -/

/-- A written set lists its entries, trimmed and without the empty ones. -/
theorem listed_toString {s : ReferencedSet} (h : ∀ e ∈ s.entries, delimiter ∉ e.toList) :
    listed s.toString = (s.entries.map Text.trim).filter (· != "") := by
  have hpieces : ∀ piece ∈ s.entries.map String.toList, delimiter ∉ piece := by
    intro piece hpiece
    obtain ⟨e, he, rfl⟩ := List.mem_map.1 hpiece
    exact h e he
  unfold listed toString Text.splitAll
  rw [String.toList_ofList]
  cases hentries : s.entries with
  | nil => decide
  | cons e rest =>
    rw [hentries] at hpieces
    rw [Text.segments_joinWith (by simp) hpieces]
    simp

/-- A value to which an entry was added lists what it listed before, and the trimmed entry. -/
theorem mem_listed_add {value e : String} (he : delimiter ∉ e.toList) (hne : Text.trim e ≠ "")
    (x : String) :
    x ∈ listed ((parse value).add e).toString ↔ x ∈ listed value ∨ x = Text.trim e := by
  have hfree : ∀ y ∈ ((parse value).add e).entries, delimiter ∉ y.toList := by
    intro y hy
    rcases (mem_add _ _ _).1 hy with hy | rfl
    · exact free_of_mem_listed ((mem_parse value y).1 hy)
    · exact he
  rw [listed_toString hfree, List.mem_filter, List.mem_map]
  -- What was read is trimmed and not empty, so only the new entry can change on the way.
  constructor
  · rintro ⟨⟨y, hy, rfl⟩, -⟩
    rcases (mem_add _ _ _).1 hy with hy | rfl
    · have hlisted := (mem_parse value y).1 hy
      exact .inl (by rwa [trim_of_mem_listed hlisted])
    · exact .inr rfl
  · rintro (hx | rfl)
    · have hold := (mem_parse value x).2 hx
      exact ⟨⟨x, (mem_add _ _ _).2 (.inl hold), trim_of_mem_listed hx⟩,
        by simpa using ne_empty_of_mem_listed hx⟩
    · exact ⟨⟨e, (mem_add _ _ _).2 (.inr rfl), rfl⟩, by simpa using hne⟩

/-- An entry that can be written: it comes back as it is. -/
structure Writable (entry : String) : Prop where
  free : delimiter ∉ entry.toList
  trimmed : Text.trim entry = entry
  nonempty : entry ≠ ""

/-- What was read can be written. -/
theorem writable_of_mem_listed {value x : String} (h : x ∈ listed value) : Writable x :=
  ⟨free_of_mem_listed h, trim_of_mem_listed h, ne_empty_of_mem_listed h⟩

/-- A set whose entries can be written lists them. -/
theorem listed_toString_of_writable {s : ReferencedSet} (h : ∀ e ∈ s.entries, Writable e) :
    listed s.toString = s.entries := by
  have htrimmed : s.entries.map Text.trim = s.entries := by
    rw [List.map_congr_left fun e he => (h e he).trimmed, List.map_id']
  rw [listed_toString fun e he => (h e he).free, htrimmed]
  exact List.filter_eq_self.2 fun e he => by simpa using (h e he).nonempty

/-- A value from which an entry was removed lists everything else that it listed before. -/
theorem mem_listed_remove (value e x : String) :
    x ∈ listed ((parse value).remove e).toString ↔ x ∈ listed value ∧ x ≠ e := by
  have hentries : ∀ y, y ∈ ((parse value).remove e).entries ↔ y ∈ listed value ∧ y ≠ e := by
    intro y
    rw [← mem_parse]
    unfold remove
    rw [List.mem_filter, bne_iff_ne]
  rw [listed_toString_of_writable fun y hy => writable_of_mem_listed ((hentries y).1 hy).1,
    hentries]

/-- The stored value is the entries with commas between them. -/
theorem toString_eq_intercalate (s : ReferencedSet) :
    s.toString = String.intercalate "," s.entries := by
  unfold toString
  rw [Text.joinWith_eq_intercalate, ← String.toList_inj, String.toList_ofList,
    String.toList_intercalate]
  rfl

/-! ### Round trip -/

/-- Entries that are new one after the other are all added, in their order. -/
theorem foldl_add_of_nodup (values : List String) (s : ReferencedSet)
    (h : (s.entries ++ values).Nodup) : values.foldl add s = ⟨s.entries ++ values⟩ := by
  induction values generalizing s with
  | nil => simp
  | cons v rest ih =>
    have hnew : v ∉ s.entries := by
      intro hv
      exact (List.nodup_append.1 h).2.2 v hv v List.mem_cons_self rfl
    have hadd : s.add v = ⟨s.entries ++ [v]⟩ :=
      if_neg fun hc => hnew ((contains_iff s v).1 hc)
    rw [List.foldl_cons, hadd, ih ⟨s.entries ++ [v]⟩ (by simpa using h)]
    simp

/-- Different entries that can be written are read back in their order. -/
theorem parse_toString {entries : List String} (hnodup : entries.Nodup)
    (hwritable : ∀ e ∈ entries, Writable e) :
    parse (toString ⟨entries⟩) = ⟨entries⟩ := by
  have hfold : entries.foldl add empty = ⟨empty.entries ++ entries⟩ :=
    foldl_add_of_nodup entries empty (by simpa [empty] using hnodup)
  unfold parse
  rw [listed_toString_of_writable hwritable, hfold]
  rfl

/-- A written set is split into its entries. -/
theorem splitAll_toString {entries : List String} (hne : entries ≠ [])
    (hwritable : ∀ e ∈ entries, Writable e) :
    Text.splitAll delimiter (toString ⟨entries⟩) = entries :=
  Text.splitAll_joined String.toList_ofList hne fun e he => (hwritable e he).free

/-- No comma stands at an end of the stored value, or beside another one. -/
theorem delimited_toString {entries : List String} (hwritable : ∀ e ∈ entries, Writable e) :
    Text.Delimited delimiter (toString ⟨entries⟩).toList := by
  by_cases hne : entries = []
  · rw [hne]
    exact ⟨by decide, by decide, by decide⟩
  · refine Text.delimited_of_segments fun hempty => ?_
    -- An empty piece would be an empty entry.
    have hentry : "" ∈ Text.splitAll delimiter (toString ⟨entries⟩) := List.mem_map_of_mem hempty
    rw [splitAll_toString hne hwritable] at hentry
    exact (hwritable "" hentry).nonempty rfl

/-- The stored value does not end with a comma. -/
theorem getLast?_toString {entries : List String} (hwritable : ∀ e ∈ entries, Writable e) :
    (toString ⟨entries⟩).toList.getLast? ≠ some delimiter :=
  (delimited_toString hwritable).noTrailing

end ReferencedSet

end SecretSync
