import Mathlib.Computability.RegularExpressions
import SecretSync.Proofs.Text.Segments
import SecretSync.Proofs.Validation.GeneratedNames

/-!
# `SecretSync.Proofs.Validation.NamePatterns`: names as RFC 1123 has them

Three descriptions of names are the same. One is the regular expression, in
which both a label and a whole name are a first part and a starred rest
(`labelPattern`, `namePattern`). The second is the grammar of the RFC, by which
all pieces between dots are labels (`IsLabel`, `Text.IsPiece`). The third is the
check, which cuts the text and looks at the ends of every piece.

A starred rest of a name is a list of labels, each behind a dot, and such a list
is what the pieces of a text are but for the first (`Text.joinWith_cons`).
-/

set_option autoImplicit false

namespace SecretSync

namespace Validation

open RegularExpression (char star)

/-! ### The patterns -/

/-- Any one character of a class. -/
def oneOf (cs : List Char) : RegularExpression Char := (cs.map char).sum

/-- The class `a-z0-9`. -/
def alphanumerics : List Char := "abcdefghijklmnopqrstuvwxyz0123456789".toList

/-- The pattern of a label, `[a-z0-9]([-a-z0-9]*[a-z0-9])?`. -/
def labelPattern : RegularExpression Char :=
  oneOf alphanumerics * (star (oneOf ('-' :: alphanumerics)) * oneOf alphanumerics + 1)

/-- The pattern of a name, which is a label and any number of further labels behind dots. -/
def namePattern : RegularExpression Char := labelPattern * star (char '.' * labelPattern)

/-! ### The grammar -/

/-- A lowercase letter or a digit. -/
def IsAlphanumeric (c : Char) : Prop := ('a' ≤ c ∧ c ≤ 'z') ∨ ('0' ≤ c ∧ c ≤ '9')

/-- A text of letters, digits and hyphens with a letter or digit at either end. -/
structure IsLabel (cs : List Char) : Prop where
  nonempty : cs ≠ []
  chars : ∀ c ∈ cs, IsAlphanumeric c ∨ c = '-'
  first : ∀ c ∈ cs.head?, IsAlphanumeric c
  last : ∀ c ∈ cs.getLast?, IsAlphanumeric c

/-! ### Characters -/

theorem isLabelEnd_iff (c : Char) : isLabelEnd c = true ↔ IsAlphanumeric c := by
  unfold isLabelEnd IsAlphanumeric
  rw [Bool.or_eq_true, Bool.and_eq_true, Bool.and_eq_true]
  simp only [decide_eq_true_eq]

theorem isLabelChar_iff (c : Char) : isLabelChar c = true ↔ IsAlphanumeric c ∨ c = '-' := by
  unfold isLabelChar
  rw [Bool.or_eq_true, isLabelEnd_iff, beq_iff_eq]

/-- The class holds all letters and digits, and nothing else. -/
theorem mem_alphanumerics_iff (c : Char) : c ∈ alphanumerics ↔ IsAlphanumeric c := by
  rw [← isLabelEnd_iff]
  constructor
  · intro h
    have hall : ∀ c ∈ alphanumerics, isLabelEnd c = true := List.all_eq_true.1 (by decide)
    exact hall c h
  · intro h
    -- All letters and digits are ASCII, and these characters can be gone through.
    have hascii : ∀ n : Fin 128, isLabelEnd (Char.ofNat n) = true →
        Char.ofNat n ∈ alphanumerics := by decide
    have hlt : c.toNat < 128 := by
      rcases (isLabelEnd_iff c).1 h with ⟨-, hle⟩ | ⟨-, hle⟩
      · exact Nat.lt_of_le_of_lt (UInt32.le_iff_toNat_le.1 hle) (by decide)
      · exact Nat.lt_of_le_of_lt (UInt32.le_iff_toNat_le.1 hle) (by decide)
    have hc := hascii ⟨c.toNat, hlt⟩
    rw [Char.ofNat_toNat] at hc
    exact hc h

/-! ### What the patterns match -/

variable {cs : List Char}

theorem mem_oneOf_iff (chars : List Char) :
    cs ∈ (oneOf chars).matches' ↔ ∃ c ∈ chars, cs = [c] := by
  unfold oneOf
  induction chars with
  | nil => simp
  | cons c rest ih =>
    rw [List.map_cons, List.sum_cons, RegularExpression.matches'_add, Language.mem_add, ih,
      List.exists_mem_cons_iff]
    rfl

/-- A starred class matches the texts of its characters. -/
theorem mem_star_oneOf_iff (chars : List Char) :
    cs ∈ (star (oneOf chars)).matches' ↔ ∀ c ∈ cs, c ∈ chars := by
  rw [RegularExpression.matches'_star, Language.mem_kstar]
  constructor
  · rintro ⟨parts, rfl, hparts⟩ c hc
    obtain ⟨part, hpart, hc⟩ := List.mem_flatten.1 hc
    obtain ⟨d, hd, rfl⟩ := (mem_oneOf_iff chars).1 (hparts part hpart)
    exact List.mem_singleton.1 hc ▸ hd
  · intro h
    -- The text is cut into its characters.
    refine ⟨cs.map fun c => [c], by rw [← List.flatMap_def, List.flatMap_singleton'], ?_⟩
    intro part hpart
    obtain ⟨c, hc, rfl⟩ := List.mem_map.1 hpart
    exact (mem_oneOf_iff chars).2 ⟨c, h c hc, rfl⟩

theorem IsLabel.append_singleton {a b : Char} {middle : List Char} (ha : IsAlphanumeric a)
    (hmiddle : ∀ c ∈ middle, IsAlphanumeric c ∨ c = '-') (hb : IsAlphanumeric b) :
    IsLabel (a :: (middle ++ [b])) where
  nonempty := List.cons_ne_nil _ _
  chars c hc := by
    simp only [List.mem_cons, List.mem_append, List.not_mem_nil, or_false] at hc
    rcases hc with rfl | hc | rfl
    · exact .inl ha
    · exact hmiddle c hc
    · exact .inl hb
  first c hc := by
    cases hc
    exact ha
  last c hc := by
    rw [← List.cons_append, List.getLast?_concat] at hc
    cases hc
    exact hb

theorem IsLabel.singleton {a : Char} (ha : IsAlphanumeric a) : IsLabel [a] where
  nonempty := List.cons_ne_nil _ _
  chars c hc := .inl (List.mem_singleton.1 hc ▸ ha)
  first c hc := by
    cases hc
    exact ha
  last c hc := by
    cases hc
    exact ha

/-- A label is one letter or digit, or it has one at either end. -/
theorem mem_labelPattern_iff : cs ∈ labelPattern.matches' ↔ IsLabel cs := by
  have hclass : ∀ c, c ∈ '-' :: alphanumerics ↔ IsAlphanumeric c ∨ c = '-' := by
    intro c
    rw [List.mem_cons, mem_alphanumerics_iff, or_comm]
  unfold labelPattern
  rw [RegularExpression.matches'_mul, Language.mem_mul]
  constructor
  · rintro ⟨first, hfirst, rest, hrest, rfl⟩
    obtain ⟨a, ha, rfl⟩ := (mem_oneOf_iff _).1 hfirst
    have ha := (mem_alphanumerics_iff a).1 ha
    rcases (Language.mem_add _ _ _).1 hrest with hrest | rfl
    · obtain ⟨middle, hmiddle, last, hlast, rfl⟩ := Language.mem_mul.1 hrest
      obtain ⟨b, hb, rfl⟩ := (mem_oneOf_iff _).1 hlast
      have hmiddle := (mem_star_oneOf_iff _).1 hmiddle
      exact .append_singleton ha (fun c hc => (hclass c).1 (hmiddle c hc))
        ((mem_alphanumerics_iff b).1 hb)
    · exact .singleton ha
  · intro h
    cases cs with
    | nil => exact absurd rfl h.nonempty
    | cons a rest =>
      have ha : [a] ∈ (oneOf alphanumerics).matches' :=
        (mem_oneOf_iff _).2 ⟨a, (mem_alphanumerics_iff a).2 (h.first a rfl), rfl⟩
      refine ⟨[a], ha, rest, (Language.mem_add _ _ _).2 ?_, rfl⟩
      rcases List.eq_nil_or_concat rest with rfl | ⟨middle, b, rfl⟩
      · exact .inr rfl
      · rw [List.concat_eq_append] at h ⊢
        have hb : IsAlphanumeric b :=
          h.last b (by rw [← List.cons_append]; exact List.getLast?_concat)
        refine .inl (Language.mem_mul.2 ⟨middle, (mem_star_oneOf_iff _).2 fun c hc => ?_, [b],
          (mem_oneOf_iff _).2 ⟨b, (mem_alphanumerics_iff b).2 hb, rfl⟩, rfl⟩)
        exact (hclass c).2 (h.chars c (List.mem_cons_of_mem _ (List.mem_append_left _ hc)))

/-- A name is one label and then others, each behind a dot. -/
theorem mem_namePattern_iff :
    cs ∈ namePattern.matches' ↔
      ∃ label labels, cs = Text.joinWith '.' (label :: labels) ∧
        ∀ piece ∈ label :: labels, IsLabel piece := by
  have hbehind : ∀ part, part ∈ (char '.' * labelPattern).matches' ↔
      ∃ label, IsLabel label ∧ part = '.' :: label := by
    intro part
    rw [RegularExpression.matches'_mul, Language.mem_mul]
    constructor
    · rintro ⟨dot, rfl, label, hlabel, rfl⟩
      exact ⟨label, mem_labelPattern_iff.1 hlabel, rfl⟩
    · rintro ⟨label, hlabel, rfl⟩
      exact ⟨['.'], rfl, label, mem_labelPattern_iff.2 hlabel, rfl⟩
  unfold namePattern
  rw [RegularExpression.matches'_mul, Language.mem_mul]
  simp only [Text.joinWith_cons, List.forall_mem_cons]
  constructor
  · rintro ⟨label, hlabel, rest, hrest, rfl⟩
    -- Each part of the starred rest is a label behind its dot.
    rw [RegularExpression.matches'_star, Language.mem_kstar] at hrest
    obtain ⟨parts, rfl, hparts⟩ := hrest
    refine ⟨label, parts.map List.tail, ?_, mem_labelPattern_iff.1 hlabel, ?_⟩
    · have htails : (parts.map List.tail).map ('.' :: ·) = parts := by
        rw [List.map_map]
        refine (List.map_congr_left fun part hpart => ?_).trans (List.map_id parts)
        obtain ⟨label, -, rfl⟩ := (hbehind part).1 (hparts part hpart)
        rfl
      rw [List.flatMap_def, htails]
    · intro piece hpiece
      obtain ⟨part, hpart, rfl⟩ := List.mem_map.1 hpiece
      obtain ⟨label, hlabel, rfl⟩ := (hbehind part).1 (hparts part hpart)
      exact hlabel
  · rintro ⟨label, labels, rfl, hlabel, hlabels⟩
    refine ⟨label, mem_labelPattern_iff.2 hlabel, labels.flatMap ('.' :: ·), ?_, rfl⟩
    rw [RegularExpression.matches'_star, Language.mem_kstar]
    refine ⟨labels.map ('.' :: ·), List.flatMap_def, fun part hpart => ?_⟩
    obtain ⟨label, hlabel, rfl⟩ := List.mem_map.1 hpart
    exact (hbehind _).2 ⟨label, hlabels label hlabel, rfl⟩

/-! ### What the check accepts -/

theorem isLabel_iff : isLabel cs = true ↔ IsLabel cs := by
  unfold isLabel
  cases cs with
  | nil => exact iff_of_false nofun fun h => h.nonempty rfl
  | cons c rest =>
    rw [Bool.and_eq_true, Bool.and_eq_true, List.all_eq_true,
      List.getLast?_eq_some_getLast (List.cons_ne_nil c rest)]
    simp only [List.head?_cons, Option.any_some, isLabelChar_iff, isLabelEnd_iff]
    constructor
    · rintro ⟨⟨hchars, hfirst⟩, hlast⟩
      refine ⟨List.cons_ne_nil c rest, hchars, ?_, ?_⟩
      · intro a ha
        cases ha
        exact hfirst
      · intro b hb
        rw [List.getLast?_eq_some_getLast (List.cons_ne_nil c rest)] at hb
        cases hb
        exact hlast
    · intro h
      exact ⟨⟨h.chars, h.first c rfl⟩,
        h.last _ (List.getLast?_eq_some_getLast (List.cons_ne_nil c rest))⟩

theorem IsLabel.dot_not_mem (h : IsLabel cs) : '.' ∉ cs := by
  intro hdot
  have hchar := (isLabelChar_iff '.').2 (h.chars '.' hdot)
  exact absurd hchar (by decide)

/-- What the check of names accepts is what the pattern matches. -/
theorem isSubdomain_iff_matches : isSubdomain cs = true ↔ cs ∈ namePattern.matches' := by
  unfold isSubdomain
  rw [List.all_eq_true, mem_namePattern_iff]
  simp only [isLabel_iff]
  constructor
  · intro h
    cases hsegments : Text.segments '.' cs with
    | nil => exact absurd hsegments (Text.segments_ne_nil '.' cs)
    | cons label labels =>
      rw [hsegments] at h
      exact ⟨label, labels, by rw [← hsegments, Text.joinWith_segments], h⟩
  · rintro ⟨label, labels, rfl, hlabels⟩
    rwa [Text.segments_joinWith (List.cons_ne_nil _ _) fun piece hpiece =>
      (hlabels piece hpiece).dot_not_mem]

theorem isSubdomain_iff :
    isSubdomain cs = true ↔ ∀ piece, Text.IsPiece '.' cs piece → IsLabel piece := by
  unfold isSubdomain
  rw [List.all_eq_true]
  simp only [isLabel_iff, Text.mem_segments_iff]

/-- A check of a text accepts the texts of one byte at least and of the greatest length at most
that are of the right form. -/
theorem checkText_eq_ok_iff_bytes {maxBytes : Nat} {isValid : List Char → Bool}
    {rule field value : String} :
    checkText maxBytes isValid rule field value = .ok () ↔
      (1 ≤ value.utf8ByteSize ∧ value.utf8ByteSize ≤ maxBytes) ∧ isValid value.toList = true := by
  rw [checkText_eq_ok_iff, and_assoc, Nat.one_le_iff_ne_zero, Ne, Ne,
    String.utf8ByteSize_eq_zero_iff]

/-- The checks of names and of namespaces accept the names of the RFC, in the bounds that they set
for the length, and the texts that the patterns match. -/
theorem checkName_iff (field value : String) :
    (checkName field value = .ok () ↔
      (1 ≤ value.utf8ByteSize ∧ value.utf8ByteSize ≤ 253) ∧
        ∀ piece, Text.IsPiece '.' value.toList piece → IsLabel piece) ∧
    (checkName field value = .ok () ↔
      (1 ≤ value.utf8ByteSize ∧ value.utf8ByteSize ≤ 253) ∧
        value.toList ∈ namePattern.matches') ∧
    (checkNamespace field value = .ok () ↔
      (1 ≤ value.utf8ByteSize ∧ value.utf8ByteSize ≤ 63) ∧ IsLabel value.toList) ∧
    (checkNamespace field value = .ok () ↔
      (1 ≤ value.utf8ByteSize ∧ value.utf8ByteSize ≤ 63) ∧
        value.toList ∈ labelPattern.matches') := by
  unfold checkName checkNamespace
  simp only [checkText_eq_ok_iff_bytes]
  refine ⟨?_, ?_, ?_, ?_⟩
  · rw [isSubdomain_iff]
  · rw [isSubdomain_iff_matches]
  · rw [isLabel_iff]
  · rw [isLabel_iff, mem_labelPattern_iff]

end Validation

end SecretSync
