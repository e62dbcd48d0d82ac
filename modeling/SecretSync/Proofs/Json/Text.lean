import Mathlib.Tactic.SplitIfs
import SecretSync.Json.Reader
import SecretSync.Json.Writer
import SecretSync.Proofs.Text.Segments

/-!
# `SecretSync.Proofs.Json.Text`: JSON text is read back

The text that a value is written as stands for that value (`Plain.read?_render`).
This is for values without numbers, which is all that resources consist of, and
for values in which no more arrays and objects are inside each other than the
reader accepts.

The readers leave what comes behind the value that they read. So every
statement is about the written text with any characters behind it, and the
number of steps that a reader needs is the length of the written text.
-/

set_option autoImplicit false

namespace SecretSync.Json

/-! ### Strings -/

/-- The ways in which a character is written inside a string. -/
inductive Written (c : Char) : List Char → Prop where
  /-- A backslash and a letter. -/
  | letter {l : Char} (hl : l ≠ 'u') (h : letterEscape? l = some c) : Written c ['\\', l]
  /-- A control by its number. -/
  | unit {x₁ x₂ x₃ x₄ : Char} (h : unit? x₁ x₂ x₃ x₄ = some c.toNat) (hc : c.toNat < 32) :
    Written c ['\\', 'u', x₁, x₂, x₃, x₄]
  /-- Itself. -/
  | plain (hquote : c ≠ '"') (hslash : c ≠ '\\') (hc : 32 ≤ c.toNat) : Written c [c]

/-- The digits of a control are read as its number. -/
theorem unit?_hex4 {n : Nat} (h : n < 32) :
    ∃ x₁ x₂ x₃ x₄, hex4 n = [x₁, x₂, x₃, x₄] ∧ unit? x₁ x₂ x₃ x₄ = some n := by
  have hall : ∀ n < 32, hex4 n = ['0', '0', Nat.digitChar (n / 16), Nat.digitChar (n % 16)] ∧
      unit? '0' '0' (Nat.digitChar (n / 16)) (Nat.digitChar (n % 16)) = some n := by decide
  exact ⟨_, _, _, _, hall n h⟩

theorem written_stringChar (c : Char) : Written c (stringChar c) := by
  have hcode : ∀ n, c.toNat = n → c = Char.ofNat n := by
    rintro n rfl
    exact (Char.ofNat_toNat c).symm
  unfold stringChar
  split_ifs with hquote hslash hline htab hreturn hback hfeed hcontrol
  · exact .letter (by decide) (by rw [hquote]; rfl)
  · exact .letter (by decide) (by rw [hslash]; rfl)
  · exact .letter (by decide) (by rw [hline]; rfl)
  · exact .letter (by decide) (by rw [htab]; rfl)
  · exact .letter (by decide) (by rw [hreturn]; rfl)
  · exact .letter (by decide) (by rw [hcode 8 hback]; rfl)
  · exact .letter (by decide) (by rw [hcode 12 hfeed]; rfl)
  · obtain ⟨x₁, x₂, x₃, x₄, hhex, hunit⟩ := unit?_hex4 hcontrol
    rw [hhex]
    exact .unit hunit hcontrol
  · exact .plain hquote hslash (Nat.le_of_not_lt hcontrol)

/-- What a character is written as is read as that character, whatever comes behind it. -/
theorem Written.stringBody {c : Char} {written : List Char} (h : Written c written)
    (acc rest : List Char) :
    stringBody acc (written ++ rest) = Json.stringBody (c :: acc) rest := by
  cases h with
  | @letter l hl h =>
    show Json.stringBody acc ('\\' :: l :: rest) = _
    rw [Json.stringBody]
    · rw [h]
      rfl
    · exact fun _ _ _ _ _ _ _ _ _ hu => absurd hu hl
    · exact fun _ _ _ _ _ hu => absurd hu hl
  | @unit x₁ x₂ x₃ x₄ h hc =>
    have hhigh : ¬ (0xD800 ≤ c.toNat ∧ c.toNat < 0xDC00) := by omega
    have hlow : ¬ (0xDC00 ≤ c.toNat ∧ c.toNat < 0xE000) := by omega
    have hhalf : ¬ (0xD800 ≤ c.toNat ∧ c.toNat < 0xE000) := by omega
    show Json.stringBody acc ('\\' :: 'u' :: x₁ :: x₂ :: x₃ :: x₄ :: rest) = _
    -- A second escape behind the first one makes the reader look for a pair.
    by_cases hpair : ∃ y₁ y₂ y₃ y₄ rest', rest = '\\' :: 'u' :: y₁ :: y₂ :: y₃ :: y₄ :: rest'
    · obtain ⟨y₁, y₂, y₃, y₄, rest', rfl⟩ := hpair
      rw [Json.stringBody]
      simp [h, hhigh, hlow]
    · rw [Json.stringBody]
      · simp [h, hhalf]
      · exact fun y₁ y₂ y₃ y₄ rest' hrest => hpair ⟨y₁, y₂, y₃, y₄, rest', hrest⟩
  | plain hquote hslash hc =>
    show Json.stringBody acc (c :: rest) = _
    rw [Json.stringBody]
    · rw [if_neg (Nat.not_lt.2 hc)]
    · exact hquote
    · exact fun _ _ _ _ _ _ _ _ _ hc => absurd hc hslash
    · exact fun _ _ _ _ _ hc => absurd hc hslash
    · exact fun _ _ hc => absurd hc hslash

theorem stringBody_flatMap (cs acc rest : List Char) :
    stringBody acc (cs.flatMap stringChar ++ '"' :: rest)
      = some (String.ofList (acc.reverse ++ cs), rest) := by
  induction cs generalizing acc with
  | nil =>
    rw [List.append_nil]
    show stringBody acc ('"' :: rest) = _
    rw [stringBody]
  | cons c cs ih =>
    rw [List.flatMap_cons, List.append_assoc, (written_stringChar c).stringBody, ih]
    simp

/-- A written string up to its closing quote. -/
theorem toList_renderString (s : String) :
    (renderString s).toList = '"' :: (s.toList.flatMap stringChar ++ ['"']) := by
  simp [renderString]

theorem stringBody_renderString (s : String) (rest : List Char) :
    stringBody [] (s.toList.flatMap stringChar ++ '"' :: rest) = some (s, rest) := by
  rw [stringBody_flatMap]
  simp

/-! ### Values -/

/-- Values without numbers, in which at most so many arrays and objects are inside each other. -/
inductive Plain : (depth : Nat) → Json → Prop where
  | null {depth : Nat} : Plain depth .null
  | bool {depth : Nat} {value : Bool} : Plain depth (.bool value)
  | str {depth : Nat} {value : String} : Plain depth (.str value)
  | arr {depth : Nat} {items : List Json} (h : ∀ item ∈ items, Plain depth item) :
    Plain (depth + 1) (.arr items)
  | obj {depth : Nat} {fields : List (String × Json)} (h : ∀ f ∈ fields, Plain depth f.2) :
    Plain (depth + 1) (.obj fields)

/-- A value is read back from its text, and what comes behind it is left. -/
def ReadBack (depth : Nat) (j : Json) : Prop :=
  ∀ (fuel : Nat) (rest : List Char), j.render.toList.length ≤ fuel →
    value? fuel depth (j.render.toList ++ rest) = some (j, rest)

/-- The characters of a field. -/
def fieldChars (f : String × Json) : List Char :=
  '"' :: (f.1.toList.flatMap stringChar ++ '"' :: ':' :: f.2.render.toList)

theorem toList_render_arr (items : List Json) :
    (render (.arr items)).toList
      = '[' :: (Text.joinWith ',' (items.map (·.render.toList)) ++ [']']) := by
  have hitems : ∀ items : List Json, renderItems items = items.map render := by
    intro items
    induction items with
    | nil => rfl
    | cons item rest ih => rw [renderItems, ih, List.map_cons]
  rw [render, hitems, String.toList_append, String.toList_append,
    Text.toList_intercalate rfl, List.map_map]
  rfl

theorem toList_render_obj (fields : List (String × Json)) :
    (render (.obj fields)).toList
      = '\x7b' :: (Text.joinWith ',' (fields.map fieldChars) ++ ['\x7d']) := by
  have hfields : ∀ fields : List (String × Json),
      (renderFields fields).map String.toList = fields.map fieldChars := by
    intro fields
    induction fields with
    | nil => rfl
    | cons f rest ih =>
      rw [renderFields, List.map_cons, ih, List.map_cons]
      simp [fieldChars, toList_renderString]
  rw [render, String.toList_append, String.toList_append, Text.toList_intercalate rfl, hfields]
  rfl

theorem skipSpace_cons {c : Char} (h : isSpace c = false) (cs : List Char) :
    skipSpace (c :: cs) = c :: cs := by
  unfold skipSpace
  rw [List.dropWhile_cons, h]
  rfl

theorem joinWith_map_cons {α : Type} (chars : α → List Char) (a b : α) (more : List α) :
    Text.joinWith ',' ((a :: b :: more).map chars)
      = chars a ++ ',' :: Text.joinWith ',' ((b :: more).map chars) := rfl

theorem joinWith_map_eq_cons {α : Type} (chars : α → List Char) {a : α} {c : Char}
    {cs : List Char} (h : chars a = c :: cs) (more : List α) :
    ∃ cs', Text.joinWith ',' ((a :: more).map chars) = c :: cs' := by
  cases more with
  | nil => exact ⟨cs, h⟩
  | cons b more => exact ⟨_, by rw [joinWith_map_cons, h, List.cons_append]⟩

/-- A list of items is read back up to the bracket that closes it. -/
theorem items?_joinWith {depth : Nat} {items : List Json} (hne : items ≠ [])
    (h : ∀ item ∈ items, ReadBack depth item) {fuel : Nat} (rest : List Char)
    (hfuel : (Text.joinWith ',' (items.map (·.render.toList))).length < fuel) :
    items? fuel depth (Text.joinWith ',' (items.map (·.render.toList)) ++ ']' :: rest)
      = some (items, rest) := by
  induction items generalizing fuel with
  | nil => exact absurd rfl hne
  | cons item more ih =>
    obtain ⟨fuel, rfl⟩ : ∃ n, fuel = n + 1 := ⟨fuel - 1, by omega⟩
    have hitem := h item List.mem_cons_self
    cases more with
    | nil =>
      have hread := hitem fuel (']' :: rest) (Nat.lt_succ_iff.1 hfuel)
      show items? (fuel + 1) depth (item.render.toList ++ ']' :: rest) = _
      rw [items?, hread]
      rfl
    | cons next more =>
      rw [joinWith_map_cons, List.length_append, List.length_cons] at hfuel
      have hread := hitem fuel
        (',' :: (Text.joinWith ',' ((next :: more).map (·.render.toList)) ++ ']' :: rest))
        (by omega)
      have hmore : items? fuel depth
          (Text.joinWith ',' ((next :: more).map (·.render.toList)) ++ ']' :: rest)
            = some (next :: more, rest) :=
        ih (List.cons_ne_nil _ _) (fun i hi => h i (List.mem_cons_of_mem _ hi)) (by omega)
      rw [joinWith_map_cons, List.append_assoc, List.cons_append, items?, hread]
      show (items? fuel depth _).bind _ = _
      rw [hmore]
      rfl

/-- The name and the colon of a field are read off, and then the value. -/
theorem fields?_fieldChars (fuel depth : Nat) (f : String × Json) (rest : List Char) :
    fields? (fuel + 1) depth (fieldChars f ++ rest)
      = (value? fuel depth (f.2.render.toList ++ rest)).bind fun p =>
          match skipSpace p.2 with
          | '\x7d' :: rest => some ([(f.1, p.1)], rest)
          | ',' :: rest => (fields? fuel depth rest).bind fun q => some ((f.1, p.1) :: q.1, q.2)
          | _ => none := by
  have hname := stringBody_renderString f.1 (':' :: (f.2.render.toList ++ rest))
  have hchars : fieldChars f ++ rest
      = '"' :: (f.1.toList.flatMap stringChar ++ '"' :: ':' :: (f.2.render.toList ++ rest)) := by
    simp [fieldChars]
  rw [hchars, fields?, skipSpace_cons rfl]
  show (Json.stringBody [] _).bind _ = _
  rw [hname, Option.bind_some]
  dsimp only
  rw [skipSpace_cons rfl]
  rfl

/-- A list of fields is read back up to the brace that closes it. -/
theorem fields?_joinWith {depth : Nat} {fields : List (String × Json)} (hne : fields ≠ [])
    (h : ∀ f ∈ fields, ReadBack depth f.2) {fuel : Nat} (rest : List Char)
    (hfuel : (Text.joinWith ',' (fields.map fieldChars)).length < fuel) :
    fields? fuel depth (Text.joinWith ',' (fields.map fieldChars) ++ '\x7d' :: rest)
      = some (fields, rest) := by
  induction fields generalizing fuel with
  | nil => exact absurd rfl hne
  | cons f more ih =>
    obtain ⟨fuel, rfl⟩ : ∃ n, fuel = n + 1 := ⟨fuel - 1, by omega⟩
    have hvalue := h f List.mem_cons_self
    have hlength : f.2.render.toList.length ≤ (fieldChars f).length := by
      simp only [fieldChars, List.length_cons, List.length_append]
      omega
    cases more with
    | nil =>
      have hread := hvalue fuel ('\x7d' :: rest) (by
        have : (fieldChars f).length < fuel + 1 := hfuel
        omega)
      show fields? (fuel + 1) depth (fieldChars f ++ '\x7d' :: rest) = _
      rw [fields?_fieldChars, hread]
      rfl
    | cons next more =>
      rw [joinWith_map_cons, List.length_append, List.length_cons] at hfuel
      have hread := hvalue fuel
        (',' :: (Text.joinWith ',' ((next :: more).map fieldChars) ++ '\x7d' :: rest)) (by omega)
      have hmore : fields? fuel depth
          (Text.joinWith ',' ((next :: more).map fieldChars) ++ '\x7d' :: rest)
            = some (next :: more, rest) :=
        ih (List.cons_ne_nil _ _) (fun g hg => h g (List.mem_cons_of_mem _ hg)) (by omega)
      rw [joinWith_map_cons, List.append_assoc, List.cons_append, fields?_fieldChars, hread]
      show (fields? fuel depth _).bind _ = _
      rw [hmore]
      rfl

/-- A value is read back if it is after the first of its characters. -/
theorem readBack_of_toList {depth : Nat} {j : Json} {c : Char} {cs : List Char}
    (hchars : j.render.toList = c :: cs)
    (h : ∀ (fuel : Nat) (rest : List Char), cs.length ≤ fuel →
      value? (fuel + 1) depth (c :: (cs ++ rest)) = some (j, rest)) : ReadBack depth j := by
  intro fuel rest hfuel
  rw [hchars, List.length_cons] at hfuel
  obtain ⟨fuel, rfl⟩ : ∃ n, fuel = n + 1 := ⟨fuel - 1, by omega⟩
  rw [hchars, List.cons_append]
  exact h fuel rest (Nat.le_of_succ_le_succ hfuel)

theorem readBack_str (depth : Nat) (value : String) : ReadBack depth (.str value) := by
  refine readBack_of_toList (toList_renderString value) fun fuel rest _ => ?_
  rw [value?, skipSpace_cons rfl, List.append_assoc]
  show (stringBody [] _).map _ = _
  rw [List.singleton_append, stringBody_renderString]
  rfl

/-- An array is read back if its items are and none of them begins like the end of an array. -/
theorem readBack_arr {depth : Nat} {items : List Json} (h : ∀ item ∈ items, ReadBack depth item)
    (hbegin : ∀ item ∈ items, ∃ c cs, item.render.toList = c :: cs ∧ isSpace c = false ∧ c ≠ ']') :
    ReadBack (depth + 1) (.arr items) := by
  refine readBack_of_toList (toList_render_arr items) fun fuel rest hfuel => ?_
  rw [value?, skipSpace_cons rfl, List.append_assoc, List.singleton_append]
  cases items with
  | nil => rfl
  | cons item more =>
    rw [List.length_append, List.length_singleton] at hfuel
    have hitems := items?_joinWith (List.cons_ne_nil item more) h rest (Nat.lt_of_succ_le hfuel)
    obtain ⟨c, cs, hchars, hspace, hclose⟩ := hbegin item List.mem_cons_self
    obtain ⟨cs', hjoined⟩ := joinWith_map_eq_cons (fun j : Json => j.render.toList) hchars more
    rw [hjoined, List.cons_append] at hitems ⊢
    simp only [skipSpace_cons hspace]
    split
    · rename_i heq
      exact absurd (List.cons.inj heq).1 hclose
    · rw [hitems]
      rfl

/-- An object is read back if its values are. -/
theorem readBack_obj {depth : Nat} {fields : List (String × Json)}
    (h : ∀ f ∈ fields, ReadBack depth f.2) : ReadBack (depth + 1) (.obj fields) := by
  refine readBack_of_toList (toList_render_obj fields) fun fuel rest hfuel => ?_
  rw [value?, skipSpace_cons rfl, List.append_assoc, List.singleton_append]
  cases fields with
  | nil => rfl
  | cons f more =>
    rw [List.length_append, List.length_singleton] at hfuel
    have hfields := fields?_joinWith (List.cons_ne_nil f more) h rest (Nat.lt_of_succ_le hfuel)
    obtain ⟨cs, hjoined⟩ := joinWith_map_eq_cons fieldChars rfl more
    rw [hjoined, List.cons_append] at hfields ⊢
    show (fields? fuel depth ('"' :: (cs ++ '\x7d' :: rest))).map _ = _
    rw [hfields]
    rfl

/-- A value begins with a character that is neither a space nor a closing bracket. -/
theorem Plain.toList_render {depth : Nat} {j : Json} (h : Plain depth j) :
    ∃ c cs, j.render.toList = c :: cs ∧ isSpace c = false ∧ c ≠ ']' := by
  cases h with
  | null => exact ⟨'n', _, rfl, rfl, by decide⟩
  | @bool _ value => cases value <;> exact ⟨_, _, rfl, rfl, by decide⟩
  | str => exact ⟨'"', _, toList_renderString _, rfl, by decide⟩
  | arr => exact ⟨'[', _, toList_render_arr _, rfl, by decide⟩
  | obj => exact ⟨'\x7b', _, toList_render_obj _, rfl, by decide⟩

/-- Every value without numbers is read back, within the depth that it needs. -/
theorem Plain.readBack {depth : Nat} {j : Json} (h : Plain depth j) {limit : Nat}
    (hlimit : depth ≤ limit) : ReadBack limit j := by
  induction h generalizing limit with
  | null => exact readBack_of_toList (c := 'n') rfl fun _ _ _ => rfl
  | @bool _ value => cases value <;> exact readBack_of_toList rfl fun _ _ _ => rfl
  | str => exact readBack_str limit _
  | @arr depth items hitems ih =>
    obtain ⟨limit, rfl⟩ : ∃ n, limit = n + 1 := ⟨limit - 1, by omega⟩
    exact readBack_arr (fun item hitem => ih item hitem (Nat.le_of_succ_le_succ hlimit))
      fun item hitem => (hitems item hitem).toList_render
  | @obj depth fields hfields ih =>
    obtain ⟨limit, rfl⟩ : ∃ n, limit = n + 1 := ⟨limit - 1, by omega⟩
    exact readBack_obj fun f hf => ih f hf (Nat.le_of_succ_le_succ hlimit)

/-- The text of a value without numbers stands for that value. -/
theorem Plain.read?_render {depth : Nat} {j : Json} (h : Plain depth j) (hdepth : depth ≤ 127) :
    read? j.render = some j := by
  have hread := h.readBack hdepth (j.render.toList.length + 1) [] (Nat.le_succ _)
  rw [List.append_nil] at hread
  unfold read?
  simp only [hread]
  rfl

end SecretSync.Json
