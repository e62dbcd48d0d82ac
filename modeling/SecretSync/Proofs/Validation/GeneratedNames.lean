import Mathlib.Tactic.SplitIfs
import SecretSync.Validation

/-!
# `SecretSync.Proofs.Validation.GeneratedNames`: names that grow from a prefix

The server appends letters and digits to a prefix, and the result should be a
name. What is appended holds no dot, so it only makes the last label longer
(`Text.exists_segments_append`). A label that ends in a hyphen is completed by
it, but it cannot give a first character to a label that has none yet.

`checkName_append` is the result for whole prefixes. It leaves out two kinds of
prefixes that are accepted although no name grows from them, a lone hyphen and
a hyphen right behind a dot (`checkName_append_hyphen`).
-/

set_option autoImplicit false

namespace SecretSync

namespace Text

theorem joinWith_concat (d : Char) (front : List (List Char)) (last : List Char) :
    joinWith d (front ++ [last]) = front.flatMap (· ++ [d]) ++ last := by
  induction front with
  | nil => rfl
  | cons piece front ih =>
    have hjoin : joinWith d (piece :: (front ++ [last]))
        = piece ++ d :: joinWith d (front ++ [last]) := by
      cases front <;> rfl
    rw [List.cons_append, hjoin, ih, List.flatMap_cons]
    simp

/-- What is appended to a text, if it holds no delimiter, belongs to the last piece. -/
theorem exists_segments_append (d : Char) (cs : List Char) :
    ∃ (front : List (List Char)) (last : List Char), cs = front.flatMap (· ++ [d]) ++ last ∧
      ∀ tail, d ∉ tail → segments d (cs ++ tail) = front ++ [last ++ tail] := by
  obtain ⟨front, last, hpieces⟩ : ∃ front last, segments d cs = front ++ [last] :=
    ⟨_, _, (List.dropLast_concat_getLast (segments_ne_nil d cs)).symm⟩
  have hcs : cs = front.flatMap (· ++ [d]) ++ last := by
    rw [← joinWith_concat, ← hpieces, joinWith_segments]
  have hfree : ∀ piece ∈ front ++ [last], d ∉ piece := by
    intro piece hpiece
    exact not_mem_of_mem_segments (hpieces ▸ hpiece)
  refine ⟨front, last, hcs, fun tail htail => ?_⟩
  have hjoined : cs ++ tail = joinWith d (front ++ [last ++ tail]) := by
    rw [joinWith_concat, ← List.append_assoc, ← hcs]
  rw [hjoined]
  refine segments_joinWith (by simp) fun piece hpiece => ?_
  rcases List.mem_append.1 hpiece with hfront | hlast
  · exact hfree piece (List.mem_append_left _ hfront)
  · rw [List.mem_singleton.1 hlast, List.mem_append, not_or]
    exact ⟨hfree last (List.mem_append_right _ List.mem_cons_self), htail⟩

end Text

namespace Validation

/-! ### Labels and subdomains -/

variable {cs tail : List Char}

/-- Appended letters and digits make a label of what begins like one. -/
theorem isLabel_append_iff (hcs : cs ≠ []) (hne : tail ≠ [])
    (htail : ∀ c ∈ tail, isLabelEnd c = true) :
    isLabel (cs ++ tail) = true ↔
      (∀ c ∈ cs, isLabelChar c = true) ∧ cs.head?.any isLabelEnd = true := by
  have hchars : ∀ c ∈ tail, isLabelChar c = true := by
    intro c hc
    rw [isLabelChar, htail c hc]
    rfl
  have hlast : (cs ++ tail).getLast?.any isLabelEnd = true := by
    rw [List.getLast?_append, List.getLast?_eq_some_getLast hne]
    exact htail _ (List.getLast_mem hne)
  have hhead : (cs ++ tail).head? = cs.head? := by
    cases cs with
    | nil => exact absurd rfl hcs
    | cons c cs => rfl
  unfold isLabel
  rw [hlast, hhead, Bool.and_true, Bool.and_eq_true, List.all_append, Bool.and_eq_true,
    List.all_eq_true, List.all_eq_true]
  exact ⟨fun h => ⟨h.1.1, h.2⟩, fun h => ⟨⟨h.1, hchars⟩, h.2⟩⟩

/-- Only the last label of a text depends on what is appended to it. -/
theorem exists_isSubdomain_append (cs : List Char) :
    ∃ (front : List (List Char)) (last : List Char), cs = front.flatMap (· ++ ['.']) ++ last ∧
      ∀ tail, '.' ∉ tail →
        (isSubdomain (cs ++ tail) = true ↔
          front.all isLabel = true ∧ isLabel (last ++ tail) = true) := by
  obtain ⟨front, last, hcs, hsegments⟩ := Text.exists_segments_append '.' cs
  refine ⟨front, last, hcs, fun tail htail => ?_⟩
  rw [isSubdomain, hsegments tail htail, List.all_append, Bool.and_eq_true]
  simp

/-- A subdomain whose last label becomes longer. -/
theorem isSubdomain_append (h : isSubdomain cs = true) (hne : tail ≠ [])
    (htail : ∀ c ∈ tail, isLabelEnd c = true) : isSubdomain (cs ++ tail) = true := by
  obtain ⟨front, last, -, hsubdomain⟩ := exists_isSubdomain_append cs
  have hdot : '.' ∉ tail := fun hmem => absurd (htail _ hmem) (by decide)
  rw [← List.append_nil cs] at h
  obtain ⟨hfront, hlabel⟩ := (hsubdomain [] List.not_mem_nil).1 h
  rw [List.append_nil] at hlabel
  have hlast : last ≠ [] := by
    rintro rfl
    cases hlabel
  refine (hsubdomain tail hdot).2 ⟨hfront, (isLabel_append_iff hlast hne htail).2 ?_⟩
  unfold isLabel at hlabel
  rw [Bool.and_eq_true, Bool.and_eq_true, List.all_eq_true] at hlabel
  exact hlabel.1

/-- Where a letter completes a subdomain, so does a hyphen with letters and digits behind it, unless
the hyphen begins a label. -/
theorem isSubdomain_append_hyphen_iff (h : isSubdomain (cs ++ ['a']) = true) (hne : tail ≠ [])
    (htail : ∀ c ∈ tail, isLabelEnd c = true) :
    isSubdomain (cs ++ '-' :: tail) = true ↔ cs ≠ [] ∧ cs.getLast? ≠ some '.' := by
  obtain ⟨front, last, rfl, hsubdomain⟩ := exists_isSubdomain_append cs
  have hdot : '.' ∉ '-' :: tail := by
    intro hmem
    rcases List.mem_cons.1 hmem with hmem | hmem
    · cases hmem
    · exact absurd (htail _ hmem) (by decide)
  obtain ⟨hfront, hlabel⟩ := (hsubdomain ['a'] (by decide)).1 h
  rw [hsubdomain _ hdot]
  cases last with
  | nil =>
    have hbegin : isLabel ([] ++ '-' :: tail) = false := by
      simp [isLabel, isLabelEnd]
    have hend : front.flatMap (· ++ ['.']) = [] ∨
        (front.flatMap (· ++ ['.'])).getLast? = some '.' := by
      rcases List.eq_nil_or_concat front with rfl | ⟨front, piece, rfl⟩
      · exact .inl rfl
      · refine .inr ?_
        simp [List.flatMap_append]
    rw [hbegin, List.append_nil]
    constructor
    · rintro ⟨-, hfalse⟩
      cases hfalse
    · rintro ⟨hne, hlast⟩
      exact absurd hend (not_or.2 ⟨hne, hlast⟩)
  | cons c last =>
    obtain ⟨hchars, hhead⟩ :=
      (isLabel_append_iff (List.cons_ne_nil c last) (by simp)
        (List.forall_mem_singleton.2 rfl)).1 hlabel
    have hhyphen : ∀ x ∈ c :: last ++ ['-'], isLabelChar x = true := by
      intro x hx
      rcases List.mem_append.1 hx with hx | hx
      · exact hchars x hx
      · rw [List.mem_singleton.1 hx]
        rfl
    have hwhole := (isLabel_append_iff (by simp) hne htail).2 ⟨hhyphen, hhead⟩
    rw [List.append_assoc] at hwhole
    have hlast : (c :: last).getLast? ≠ some '.' := by
      intro hdot
      exact absurd (hchars '.' (List.mem_of_getLast? hdot)) (by decide)
    refine iff_of_true ⟨hfront, hwhole⟩ ⟨by simp, ?_⟩
    rw [List.getLast?_append, List.getLast?_eq_some_getLast (List.cons_ne_nil c last)]
    rwa [List.getLast?_eq_some_getLast (List.cons_ne_nil c last)] at hlast

/-! ### Names -/

theorem checkText_eq_ok_iff {maxBytes : Nat} {isValid : List Char → Bool}
    {rule field value : String} :
    checkText maxBytes isValid rule field value = .ok () ↔
      value ≠ "" ∧ value.utf8ByteSize ≤ maxBytes ∧ isValid value.toList = true := by
  unfold checkText
  split_ifs with hempty hlength hvalid
  · simp [String.isEmpty_iff.1 hempty]
  · simp [Nat.not_le.2 hlength]
  · simp_all
  · simp_all

/-- A prefix is accepted if its completion is a name. -/
theorem checkGenerateName_eq_ok_iff {field value : String} :
    checkGenerateName field value = .ok () ↔ checkName field (completedPrefix value) = .ok () := by
  unfold checkGenerateName
  cases checkName field (completedPrefix value) with
  | ok _ => rfl
  | error e => simp [Except.mapError]

theorem completedPrefix_of_hyphen {value : String} (h : value.toList = cs ++ ['-']) :
    (completedPrefix value).toList = cs ++ ['a'] := by
  unfold completedPrefix
  rw [h, List.reverse_append]
  simp

theorem completedPrefix_of_not_hyphen {value : String}
    (h : ∀ cs, value.toList ≠ cs ++ ['-']) : completedPrefix value = value := by
  unfold completedPrefix
  split
  · rename_i rest hreverse
    rw [List.reverse_eq_cons_iff] at hreverse
    exact absurd hreverse (h _)
  · rfl

/-- A prefix that is accepted and does not have its hyphen at the beginning of a label gives a
name with every letter and digit that is appended to it, as long as the name is not too long. -/
theorem checkName_append {pre text : String} (field field' : String)
    (h : checkGenerateName field pre = .ok ()) (hhyphen : pre ≠ "-")
    (hdot : ¬ ".-".toList <:+ pre.toList) (hne : text ≠ "")
    (htext : ∀ c ∈ text.toList, isLabelEnd c = true)
    (hlength : pre.utf8ByteSize + text.utf8ByteSize ≤ 253) :
    checkName field' (pre ++ text) = .ok () := by
  have hnonempty : text.toList ≠ [] := fun hnil => hne (String.toList_eq_nil_iff.1 hnil)
  have hcompleted := (checkText_eq_ok_iff.1 (checkGenerateName_eq_ok_iff.1 h)).2.2
  refine checkText_eq_ok_iff.2 ⟨?_, ?_, ?_⟩
  · intro happend
    exact hne (String.append_eq_empty_iff.1 happend).2
  · rwa [String.utf8ByteSize_append]
  · rw [String.toList_append]
    by_cases hlast : ∃ cs, pre.toList = cs ++ ['-']
    · -- What was checked has an `a` where the prefix has its last hyphen.
      obtain ⟨cs, hcs⟩ := hlast
      rw [completedPrefix_of_hyphen hcs] at hcompleted
      rw [hcs, List.append_assoc, List.singleton_append]
      refine (isSubdomain_append_hyphen_iff hcompleted hnonempty htext).2 ⟨?_, ?_⟩
      · rintro rfl
        exact hhyphen (String.toList_inj.1 hcs)
      · intro hlastdot
        obtain ⟨cs', rfl⟩ := List.getLast?_eq_some_iff.1 hlastdot
        refine hdot ⟨cs', ?_⟩
        rw [hcs, List.append_assoc]
        rfl
    · rw [completedPrefix_of_not_hyphen (fun cs hcs => hlast ⟨cs, hcs⟩)] at hcompleted
      exact isSubdomain_append hcompleted hnonempty htext

theorem checkName_append_dashed :
    checkGenerateName "generateName" "db.v1--" = .ok () ∧
      checkName "name" ("db.v1--" ++ "x7k2p") = .ok () :=
  ⟨rfl, checkName_append "generateName" "name" rfl (by decide) (by decide) (by decide)
    (List.all_eq_true.1 rfl) (by decide)⟩

/-- No name grows from a hyphen at the beginning of a label, and yet such prefixes are accepted. -/
theorem checkName_append_hyphen :
    (∀ c ∈ "x".toList, isLabelEnd c = true) ∧ "a.-".utf8ByteSize + "x".utf8ByteSize ≤ 253 ∧
    checkGenerateName "generateName" "-" = .ok () ∧
    checkName "name" ("-" ++ "x") = .error (.invalidName "name" "-x"
      "must be lowercase alphanumeric, hyphens, dots; cannot start/end with hyphen or dot") ∧
    checkGenerateName "generateName" "a.-" = .ok () ∧
    checkName "name" ("a.-" ++ "x") = .error (.invalidName "name" "a.-x"
      "must be lowercase alphanumeric, hyphens, dots; cannot start/end with hyphen or dot") :=
  ⟨List.all_eq_true.1 rfl, by decide, rfl, rfl, rfl, rfl⟩

end Validation

end SecretSync
