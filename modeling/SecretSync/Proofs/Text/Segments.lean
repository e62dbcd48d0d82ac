import SecretSync.Text.Segments

/-!
# `SecretSync.Proofs.Text.Segments`: joined strings

What `segments` and `joinWith` say about lists of characters, for strings: a
string of pieces with a delimiter between them is split into these pieces
(`splitAll_joined`), and `String.intercalate` makes such strings
(`toList_intercalate`).

`delimited_of_segments` says what a text looks like whose pieces are all there:
no delimiter stands at either end, and no two stand side by side.
`mem_segments_iff` says which parts of a text are its pieces, without cutting
it.
-/

set_option autoImplicit false

namespace SecretSync.Text

/-- A joined text has the characters of its pieces and the delimiter. -/
theorem mem_joinWith {d c : Char} {pieces : List (List Char)} (h : c ∈ joinWith d pieces) :
    c = d ∨ ∃ piece ∈ pieces, c ∈ piece := by
  induction pieces with
  | nil => cases h
  | cons piece rest ih =>
    cases rest with
    | nil => exact .inr ⟨piece, List.mem_cons_self, h⟩
    | cons next rest =>
      rcases List.mem_append.1 h with h | h
      · exact .inr ⟨piece, List.mem_cons_self, h⟩
      · rcases List.mem_cons.1 h with h | h
        · exact .inl h
        · exact (ih h).imp id fun ⟨p, hp, hc⟩ => ⟨p, List.mem_cons_of_mem _ hp, hc⟩

theorem joinWith_eq_intercalate (d : Char) (pieces : List (List Char)) :
    joinWith d pieces = [d].intercalate pieces := by
  induction pieces with
  | nil => rfl
  | cons piece rest ih =>
    cases rest with
    | nil => simp [joinWith]
    | cons next rest => rw [joinWith, ih, List.intercalate_cons_cons] <;> simp

theorem toList_intercalate {separator : String} {d : Char} (h : separator.toList = [d])
    (pieces : List String) :
    (separator.intercalate pieces).toList = joinWith d (pieces.map String.toList) := by
  rw [joinWith_eq_intercalate, String.toList_intercalate, h]

/-- A string of pieces with a delimiter between them is split into these pieces. -/
theorem splitAll_joined {d : Char} {s : String} {pieces : List String}
    (hs : s.toList = joinWith d (pieces.map String.toList)) (hne : pieces ≠ [])
    (hfree : ∀ piece ∈ pieces, d ∉ piece.toList) : splitAll d s = pieces := by
  have hpieces : ∀ piece ∈ pieces.map String.toList, d ∉ piece := by
    intro piece hpiece
    obtain ⟨text, htext, rfl⟩ := List.mem_map.1 hpiece
    exact hfree text htext
  unfold splitAll
  rw [hs, segments_joinWith (by simpa using hne) hpieces, List.map_map]
  refine (List.map_congr_left fun text _ => ?_).trans (List.map_id _)
  exact String.ofList_toList

/-! ### Where delimiters stand -/

/-- A delimiter at the beginning leaves an empty piece in front. -/
theorem segments_delimiter_cons (d : Char) (cs : List Char) :
    segments d (d :: cs) = [] :: segments d cs :=
  segments_append_cons List.not_mem_nil cs

/-- At a delimiter a text falls into two, and so do its pieces. -/
theorem segments_append_delimiter (d : Char) (before after : List Char) :
    segments d (before ++ d :: after) = segments d before ++ segments d after := by
  induction before with
  | nil => exact segments_delimiter_cons d after
  | cons c before ih =>
    rw [List.cons_append, segments_cons, segments_cons, ih]
    unfold segmentStep
    split
    · rfl
    · cases hp : segments d before with
      | nil => exact absurd hp (segments_ne_nil d before)
      | cons piece pieces => rfl

/-- A text that neither begins nor ends with a delimiter, and in which no delimiter follows
another. -/
structure Delimited (d : Char) (cs : List Char) : Prop where
  noLeading : cs.head? ≠ some d
  noTrailing : cs.getLast? ≠ some d
  noDoubled : ¬ [d, d] <:+: cs

/-- A delimiter at an end of a text, or beside another one, leaves an empty piece. -/
theorem delimited_of_segments {d : Char} {cs : List Char} (h : [] ∉ segments d cs) :
    Delimited d cs where
  noLeading := by
    intro hhead
    obtain ⟨rest, rfl⟩ := List.head?_eq_some_iff.1 hhead
    rw [segments_delimiter_cons] at h
    exact h List.mem_cons_self
  noTrailing := by
    intro hlast
    obtain ⟨front, rfl⟩ := List.getLast?_eq_some_iff.1 hlast
    rw [segments_append_delimiter] at h
    exact h (List.mem_append_right _ List.mem_cons_self)
  noDoubled := by
    rintro ⟨before, after, rfl⟩
    -- What follows the first of the two delimiters begins with the second.
    rw [List.append_assoc, List.cons_append, segments_append_delimiter, List.singleton_append,
      segments_delimiter_cons] at h
    exact h (List.mem_append_right _ List.mem_cons_self)

/-! ### Where pieces stand -/

/-- A joined text is its first piece and then the others, each behind a delimiter. -/
theorem joinWith_cons (d : Char) (piece : List Char) (rest : List (List Char)) :
    joinWith d (piece :: rest) = piece ++ rest.flatMap (d :: ·) := by
  induction rest generalizing piece with
  | nil => exact (List.append_nil piece).symm
  | cons next rest ih =>
    show piece ++ d :: joinWith d (next :: rest) = _
    rw [ih, List.flatMap_cons, List.cons_append]

theorem joinWith_append_cons (d : Char) (front : List (List Char)) (piece : List Char)
    (rest : List (List Char)) :
    joinWith d (front ++ piece :: rest)
      = front.flatMap (· ++ [d]) ++ joinWith d (piece :: rest) := by
  induction front with
  | nil => rfl
  | cons first front ih =>
    have hjoin : joinWith d (first :: (front ++ piece :: rest))
        = first ++ d :: joinWith d (front ++ piece :: rest) := by
      cases front <;> rfl
    rw [List.cons_append, hjoin, ih, List.flatMap_cons]
    simp

/-- A part of a text that reaches from one delimiter, or from the beginning, to the next one, or to
the end. -/
def IsPiece (d : Char) (cs piece : List Char) : Prop :=
  ∃ before after, cs = before ++ piece ++ after ∧ d ∉ piece ∧
    (before = [] ∨ before.getLast? = some d) ∧ (after = [] ∨ after.head? = some d)

/-- These parts are what a text is cut into. -/
theorem mem_segments_iff (d : Char) (cs piece : List Char) :
    piece ∈ segments d cs ↔ IsPiece d cs piece := by
  constructor
  · intro h
    obtain ⟨front, rest, hsegments⟩ := List.append_of_mem h
    refine ⟨front.flatMap (· ++ [d]), rest.flatMap (d :: ·), ?_, not_mem_of_mem_segments h, ?_, ?_⟩
    · rw [List.append_assoc, ← joinWith_cons, ← joinWith_append_cons, ← hsegments,
        joinWith_segments]
    · rcases List.eq_nil_or_concat front with rfl | ⟨front, last, rfl⟩
      · exact .inl rfl
      · exact .inr (by simp [List.flatMap_append])
    · cases rest with
      | nil => exact .inl rfl
      | cons next rest => exact .inr rfl
  · rintro ⟨before, after, rfl, hfree, hbefore, hafter⟩
    have hbegin : ∃ pieces, segments d (piece ++ after) = piece :: pieces := by
      rcases hafter with rfl | hafter
      · exact ⟨[], by rw [List.append_nil, segments_of_not_mem hfree]⟩
      · obtain ⟨rest, rfl⟩ := List.head?_eq_some_iff.1 hafter
        exact ⟨segments d rest, segments_append_cons hfree rest⟩
    obtain ⟨pieces, hpieces⟩ := hbegin
    rw [List.append_assoc]
    rcases hbefore with rfl | hbefore
    · rw [List.nil_append, hpieces]
      exact List.mem_cons_self
    · obtain ⟨front, rfl⟩ := List.getLast?_eq_some_iff.1 hbefore
      rw [List.append_assoc, List.singleton_append, segments_append_delimiter, hpieces]
      exact List.mem_append_right _ List.mem_cons_self

end SecretSync.Text
