/-!
# `SecretSync.Text.Segments`: splitting and joining at a character

`segments d cs` cuts a text at every `d`, `joinWith d` puts the pieces
together again, and `splitFirst d` cuts at the first `d` only. The statements
that say so are `joinWith_segments`, by which nothing is lost,
`not_mem_of_mem_segments`, by which no piece holds the delimiter, and
`segments_joinWith`, by which such pieces are read back.
-/

set_option autoImplicit false

namespace SecretSync.Text

/-- One step of cutting from the right: a delimiter opens a piece, any other character joins the
first one. -/
def segmentStep (d c : Char) (pieces : List (List Char)) : List (List Char) :=
  if c = d then [] :: pieces
  else match pieces with
    | [] => [[c]]
    | piece :: rest => (c :: piece) :: rest

/-- The pieces of a text between the occurrences of `d`; there is always at least one. -/
def segments (d : Char) (cs : List Char) : List (List Char) :=
  cs.foldr (segmentStep d) [[]]

/-- The pieces with `d` between them. -/
def joinWith (d : Char) : List (List Char) → List Char
  | [] => []
  | [piece] => piece
  | piece :: rest => piece ++ d :: joinWith d rest

/-- The text before the first `d` and the text after it. -/
def splitFirst (d : Char) (cs : List Char) : Option (List Char × List Char) :=
  let before := cs.takeWhile (· != d)
  match cs.dropWhile (· != d) with
  | [] => none
  | _ :: rest => some (before, rest)

/-- The text before the first `d` of a string and the text after it. -/
def splitOnce (d : Char) (s : String) : Option (String × String) :=
  (splitFirst d s.toList).map fun p => (String.ofList p.1, String.ofList p.2)

/-- The pieces of a string between the occurrences of `d`. -/
def splitAll (d : Char) (s : String) : List String := (segments d s.toList).map String.ofList

theorem segments_ne_nil (d : Char) (cs : List Char) : segments d cs ≠ [] := by
  cases cs with
  | nil => simp [segments]
  | cons c rest =>
    show segmentStep d c (segments d rest) ≠ []
    unfold segmentStep
    split
    · simp
    · split <;> simp

theorem segments_cons (d c : Char) (cs : List Char) :
    segments d (c :: cs) = segmentStep d c (segments d cs) := rfl

/-- Joining the pieces gives the text back. -/
theorem joinWith_segments (d : Char) (cs : List Char) : joinWith d (segments d cs) = cs := by
  induction cs with
  | nil => rfl
  | cons c rest ih =>
    rw [segments_cons]
    unfold segmentStep
    split
    · rename_i h
      cases hp : segments d rest with
      | nil => exact absurd hp (segments_ne_nil d rest)
      | cons piece pieces =>
        rw [hp] at ih
        rw [joinWith, ih, h]
        · rfl
        · simp
    · cases hp : segments d rest with
      | nil => exact absurd hp (segments_ne_nil d rest)
      | cons piece pieces =>
        rw [hp] at ih
        cases pieces with
        | nil => simpa [joinWith] using ih
        | cons p ps => simpa [joinWith] using ih

/-- No piece holds the delimiter. -/
theorem not_mem_of_mem_segments {d : Char} {cs piece : List Char} (h : piece ∈ segments d cs) :
    d ∉ piece := by
  induction cs generalizing piece with
  | nil =>
    obtain rfl : piece = [] := by simpa [segments] using h
    simp
  | cons c rest ih =>
    rw [segments_cons] at h
    unfold segmentStep at h
    split at h
    · rcases List.mem_cons.1 h with h | h
      · simp [h]
      · exact ih h
    · rename_i hc
      cases hp : segments d rest with
      | nil => exact absurd hp (segments_ne_nil d rest)
      | cons p ps =>
        rw [hp] at h
        rcases List.mem_cons.1 h with h | h
        · have := ih (hp ▸ List.mem_cons_self : p ∈ segments d rest)
          simp [h, this, Ne.symm hc]
        · exact ih (hp ▸ List.mem_cons_of_mem _ h)

/-- A text without the delimiter is one piece. -/
theorem segments_of_not_mem {d : Char} {cs : List Char} (h : d ∉ cs) : segments d cs = [cs] := by
  induction cs with
  | nil => rfl
  | cons c rest ih =>
    have hc : c ≠ d := fun he => h (he ▸ List.mem_cons_self)
    have hrest : d ∉ rest := fun hm => h (List.mem_cons_of_mem _ hm)
    rw [segments_cons, ih hrest]
    unfold segmentStep
    rw [if_neg hc]

/-- The text before the first delimiter is the first piece. -/
theorem segments_append_cons {d : Char} {cs : List Char} (h : d ∉ cs) (rest : List Char) :
    segments d (cs ++ d :: rest) = cs :: segments d rest := by
  induction cs with
  | nil =>
    rw [List.nil_append, segments_cons]
    unfold segmentStep
    rw [if_pos rfl]
  | cons c cs ih =>
    have hc : c ≠ d := fun he => h (he ▸ List.mem_cons_self)
    have hcs : d ∉ cs := fun hm => h (List.mem_cons_of_mem _ hm)
    rw [List.cons_append, segments_cons, ih hcs]
    unfold segmentStep
    rw [if_neg hc]

/-- Pieces without the delimiter are read back from the joined text. -/
theorem segments_joinWith {d : Char} {pieces : List (List Char)} (hne : pieces ≠ [])
    (h : ∀ piece ∈ pieces, d ∉ piece) : segments d (joinWith d pieces) = pieces := by
  induction pieces with
  | nil => exact absurd rfl hne
  | cons piece rest ih =>
    have hpiece : d ∉ piece := h piece List.mem_cons_self
    cases rest with
    | nil => exact segments_of_not_mem hpiece
    | cons p ps =>
      have hrest := ih (by simp) fun q hq => h q (List.mem_cons_of_mem _ hq)
      rw [joinWith, segments_append_cons hpiece, hrest]
      simp

/-- What a text is split into at its first `d`: the part before has no `d`. -/
theorem splitFirst_eq_some_iff {d : Char} {cs before after : List Char} :
    splitFirst d cs = some (before, after) ↔ cs = before ++ d :: after ∧ d ∉ before := by
  induction cs generalizing before with
  | nil => simp [splitFirst]
  | cons c rest ih =>
    by_cases h : c = d
    · subst h
      constructor
      · intro hs
        have : some (([] : List Char), rest) = some (before, after) := by
          simpa [splitFirst] using hs
        obtain ⟨rfl, rfl⟩ := Prod.mk.inj (Option.some.inj this)
        simp
      · rintro ⟨hs, hnot⟩
        cases before with
        | nil =>
          obtain rfl : rest = after := by simpa using hs
          simp [splitFirst]
        | cons b bs =>
          obtain ⟨rfl, -⟩ := List.cons.inj hs
          simp at hnot
    · have hstep : splitFirst d (c :: rest) =
          (splitFirst d rest).map fun p => (c :: p.1, p.2) := by
        have hc : (c != d) = true := by simpa using h
        have htake : (c :: rest).takeWhile (· != d) = c :: rest.takeWhile (· != d) :=
          List.takeWhile_cons_of_pos hc
        have hdrop : (c :: rest).dropWhile (· != d) = rest.dropWhile (· != d) :=
          List.dropWhile_cons_of_pos hc
        unfold splitFirst
        rw [htake, hdrop]
        cases rest.dropWhile (· != d) <;> rfl
      rw [hstep]
      constructor
      · intro hs
        obtain ⟨p, hp, he⟩ := Option.map_eq_some_iff.1 hs
        obtain ⟨rfl, rfl⟩ := Prod.mk.inj he
        obtain ⟨hr, hn⟩ := ih.1 hp
        exact ⟨by rw [List.cons_append, ← hr], by simp [Ne.symm h, hn]⟩
      · rintro ⟨hs, hnot⟩
        cases before with
        | nil => exact absurd (List.cons.inj hs).1 h
        | cons b bs =>
          obtain ⟨rfl, hr⟩ := List.cons.inj hs
          rw [ih.2 ⟨hr, fun hm => hnot (List.mem_cons_of_mem _ hm)⟩]
          rfl

end SecretSync.Text
