import SecretSync.Document

/-!
# `SecretSync.Proofs.Json.Fields`: fields of objects

Of the fields of one name the last counts, so what a list of fields holds can
be told from its parts (`findField_append`). The readers for fields and maps
of texts give back what the writers wrote (`optional_map`,
`textMap?_ofTextMap`).
-/

set_option autoImplicit false

namespace SecretSync

namespace Json

/-- Of a name that occurs later on, the later field counts. -/
theorem findField_cons (name : String) (f : String × Json) (fields : List (String × Json)) :
    findField name (f :: fields)
      = (findField name fields).or (if f.1 = name then some f.2 else none) := by
  have hfold : ∀ (fields : List (String × Json)) (found : Option Json),
      fields.foldl (fun found f => if f.1 = name then some f.2 else found) found
        = (findField name fields).or found := by
    intro fields
    induction fields with
    | nil =>
      intro found
      rfl
    | cons g rest ih =>
      intro found
      unfold findField
      rw [List.foldl_cons, List.foldl_cons, ih, ih]
      by_cases hg : g.1 = name
      · rw [if_pos hg, if_pos hg]
        cases findField name rest <;> rfl
      · rw [if_neg hg, if_neg hg]
        cases findField name rest <;> rfl
  exact hfold fields _

theorem findField_append (name : String) (fields fields' : List (String × Json)) :
    findField name (fields ++ fields') = (findField name fields').or (findField name fields) := by
  induction fields with
  | nil => exact Option.or_none.symm
  | cons f rest ih => rw [List.cons_append, findField_cons, findField_cons, ih, Option.or_assoc]

/-- A field that may be absent is found under its name if it is there. -/
theorem findField_optionalField {α : Type} (name field : String) (write : α → Json)
    (value : Option α) :
    findField name (optionalField field write value)
      = if field = name then value.map write else none := by
  cases value with
  | none => split <;> rfl
  | some a =>
    show findField name [(field, write a)] = _
    rw [findField_cons]
    exact Option.none_or

end Json

namespace Document

variable {α β : Type}

/-- A list of written values is read back if every value is. -/
theorem mapM_map {read : β → Option α} {write : α → β} (h : ∀ a, read (write a) = some a)
    (values : List α) : (values.map write).mapM read = some values := by
  induction values with
  | nil => rfl
  | cons a rest ih =>
    rw [List.map_cons, List.mapM_cons, h, ih]
    rfl

/-- An optional field that was written is read back, unless it was written as null. -/
theorem optional_map {read : Json → Option α} {write : α → Json}
    (hread : ∀ a, read (write a) = some a) (hnull : ∀ a, (write a).isNull = false)
    (value : Option α) : optional read (value.map write) = some value := by
  cases value with
  | none => rfl
  | some a =>
    show (if (write a).isNull then some none else (read (write a)).map some) = _
    rw [hnull, hread]
    rfl

/-- A map of texts is read back. -/
theorem textMap?_ofTextMap (m : SortedMap String) : textMap? (Json.ofTextMap m) = some m := by
  let write (e : String × String) : String × Json := (e.1, .str e.2)
  let read (f : String × Json) : Option (String × String) :=
    (text? f.2).map fun value => (f.1, value)
  have hread : ∀ e, read (write e) = some e := fun _ => rfl
  show ((m.entries.map write).mapM read).map SortedMap.ofList = some m
  rw [mapM_map hread, Option.map_some, SortedMap.ofList_entries]

end Document

end SecretSync
