/-!
# `SecretSync.Text.Blank`: white space and trimming

Values that people edit by hand are read with the blank characters around
them taken off. Blank is the Unicode property `White_Space`, which is larger
than the ASCII class of `Char.isWhitespace`: it holds the no-break spaces,
the typographic spaces and the line and paragraph separators, and it does not
hold zero-width characters or the byte order mark.

`trim_eq_self_iff` says which texts trimming leaves alone.
-/

set_option autoImplicit false

namespace SecretSync.Text

/-- The characters of the Unicode property `White_Space`. -/
def isBlank (c : Char) : Bool :=
  let n := c.toNat
  (9 ≤ n && n ≤ 13) || n == 0x20 || n == 0x85 || n == 0xA0 || n == 0x1680 ||
    (0x2000 ≤ n && n ≤ 0x200A) || n == 0x2028 || n == 0x2029 || n == 0x202F || n == 0x205F ||
    n == 0x3000

/-- The characters without the blank ones at either end. -/
def trimChars (cs : List Char) : List Char :=
  ((cs.dropWhile isBlank).reverse.dropWhile isBlank).reverse

/-- The text without the blank characters at either end. -/
def trim (s : String) : String := String.ofList (trimChars s.toList)

/-- A text is trimmed if it neither begins nor ends with a blank character. -/
def IsTrimmed (cs : List Char) : Prop :=
  (∀ c ∈ cs.head?, isBlank c = false) ∧ (∀ c ∈ cs.getLast?, isBlank c = false)

theorem dropWhile_eq_self_of_head {cs : List Char} (h : ∀ c ∈ cs.head?, isBlank c = false) :
    cs.dropWhile isBlank = cs := by
  cases cs with
  | nil => rfl
  | cons c rest => rw [List.dropWhile_cons_of_neg]; simpa using h c rfl

theorem head_dropWhile_not_blank (cs : List Char) :
    ∀ c ∈ (cs.dropWhile isBlank).head?, isBlank c = false := by
  induction cs with
  | nil => intro c hc; simp at hc
  | cons d rest ih =>
    by_cases h : isBlank d
    · rw [List.dropWhile_cons_of_pos h]; exact ih
    · rw [List.dropWhile_cons_of_neg h]
      intro c hc
      obtain rfl : d = c := by simpa using hc
      simpa using h

theorem trimChars_eq_self {cs : List Char} (h : IsTrimmed cs) : trimChars cs = cs := by
  unfold trimChars
  rw [dropWhile_eq_self_of_head h.1, dropWhile_eq_self_of_head, List.reverse_reverse]
  intro c hc
  rw [List.head?_reverse] at hc
  exact h.2 c hc

/-- The result of dropping leading blanks from the reverse still begins as the text did. -/
theorem head_of_trimEnd {cs : List Char} {c : Char}
    (hc : c ∈ ((cs.reverse.dropWhile isBlank).reverse).head?) : c ∈ cs.head? := by
  obtain ⟨dropped, hsplit⟩ : ∃ dropped, dropped ++ cs.reverse.dropWhile isBlank = cs.reverse :=
    List.dropWhile_suffix isBlank
  have hcs : cs = (cs.reverse.dropWhile isBlank).reverse ++ dropped.reverse := by
    rw [← List.reverse_append, hsplit, List.reverse_reverse]
  cases hlist : (cs.reverse.dropWhile isBlank).reverse with
  | nil => rw [hlist] at hc; simp at hc
  | cons d rest =>
    rw [hlist] at hc hcs
    rw [hcs]
    simpa using hc

theorem isTrimmed_trimChars (cs : List Char) : IsTrimmed (trimChars cs) := by
  unfold trimChars
  refine ⟨fun c hc => ?_, fun c hc => ?_⟩
  · exact head_dropWhile_not_blank cs c (head_of_trimEnd hc)
  · rw [List.getLast?_reverse] at hc
    exact head_dropWhile_not_blank _ c hc

/-- Trimming leaves a text alone exactly when it is trimmed. -/
theorem trim_eq_self_iff (s : String) : trim s = s ↔ IsTrimmed s.toList := by
  unfold trim
  constructor
  · intro h
    rw [← h, String.toList_ofList]
    exact isTrimmed_trimChars _
  · intro h
    rw [trimChars_eq_self h, String.ofList_toList]

/-- Trimming takes characters off and adds none. -/
theorem mem_of_mem_trimChars {c : Char} {cs : List Char} (h : c ∈ trimChars cs) : c ∈ cs := by
  unfold trimChars at h
  have hdropped := (List.dropWhile_suffix isBlank).subset (List.mem_reverse.1 h)
  exact (List.dropWhile_suffix isBlank).subset (List.mem_reverse.1 hdropped)

theorem mem_dropWhile_of_not_blank {c : Char} {cs : List Char} (h : c ∈ cs)
    (hc : isBlank c = false) : c ∈ cs.dropWhile isBlank := by
  induction cs with
  | nil => cases h
  | cons d rest ih =>
    by_cases hd : isBlank d
    · rw [List.dropWhile_cons_of_pos hd]
      rcases List.mem_cons.1 h with rfl | h
      · rw [hc] at hd
        cases hd
      · exact ih h
    · rw [List.dropWhile_cons_of_neg hd]
      exact h

/-- Trimming keeps every character that is not blank. -/
theorem mem_trimChars_of_not_blank {c : Char} {cs : List Char} (h : c ∈ cs)
    (hc : isBlank c = false) : c ∈ trimChars cs := by
  have hstart := List.mem_reverse.2 (mem_dropWhile_of_not_blank h hc)
  exact List.mem_reverse.2 (mem_dropWhile_of_not_blank hstart hc)

theorem trim_trim (s : String) : trim (trim s) = trim s := by
  rw [trim_eq_self_iff]
  unfold trim
  rw [String.toList_ofList]
  exact isTrimmed_trimChars _

end SecretSync.Text
