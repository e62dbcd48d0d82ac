/-!
# `SecretSync.SortedMap`: string-keyed maps in key order

Labels, annotations, secret data and the contents of a cluster are finite
maps whose keys are strings and whose order is the order of their code
points. `SortedMap α` keeps its entries in a list that is strictly sorted by
key, so every map has exactly one representation and equality of maps is
equality of values.

`get?` is the view: the lemmas say what every operation does to it, and
`ext_get?` says that it determines the map.
-/

set_option autoImplicit false

namespace SecretSync

universe u

/-- A finite map from strings to `α`, its entries strictly sorted by key. -/
structure SortedMap (α : Type u) where
  entries : List (String × α)
  sorted : entries.Pairwise (fun a b => a.1 < b.1)

namespace SortedMap

variable {α : Type u}

instance [DecidableEq α] : DecidableEq (SortedMap α) := fun a b =>
  decidable_of_iff (a.entries = b.entries) (by
    constructor
    · intro h; cases a; cases b; simp_all
    · intro h; rw [h])

/-- The map without entries. -/
def empty : SortedMap α := ⟨[], List.Pairwise.nil⟩

instance : Inhabited (SortedMap α) := ⟨empty⟩

/-- The entries in key order. -/
def toList (m : SortedMap α) : List (String × α) := m.entries

/-- The keys in order. -/
def keys (m : SortedMap α) : List String := m.entries.map Prod.fst

/-- The values in the order of their keys. -/
def values (m : SortedMap α) : List α := m.entries.map Prod.snd

/-- Whether the map has no entry. -/
def isEmpty (m : SortedMap α) : Bool := m.entries.isEmpty

/-- The number of entries. -/
def size (m : SortedMap α) : Nat := m.entries.length

/-- The value of a key, if it has one. -/
def get? (m : SortedMap α) (key : String) : Option α := m.entries.lookup key

/-- Whether the key has a value. -/
def contains (m : SortedMap α) (key : String) : Bool := (m.get? key).isSome

/-! ### Insertion -/

/-- Puts an entry in its place in a sorted list, replacing the entry of the same key. -/
def insertEntry (key : String) (value : α) : List (String × α) → List (String × α)
  | [] => [(key, value)]
  | (k, v) :: rest =>
    if key < k then (key, value) :: (k, v) :: rest
    else if key = k then (key, value) :: rest
    else (k, v) :: insertEntry key value rest

theorem mem_insertEntry {key : String} {value : α} {e : String × α} {l : List (String × α)}
    (h : e ∈ insertEntry key value l) : e = (key, value) ∨ e ∈ l := by
  induction l with
  | nil => simpa [insertEntry] using h
  | cons head rest ih =>
    obtain ⟨k, v⟩ := head
    unfold insertEntry at h
    split at h
    · simpa using h
    · split at h
      · rcases List.mem_cons.1 h with h | h
        · exact .inl h
        · exact .inr (List.mem_cons_of_mem _ h)
      · rcases List.mem_cons.1 h with h | h
        · exact .inr (h ▸ List.mem_cons_self)
        · exact (ih h).imp id (List.mem_cons_of_mem _)

/-- Of two keys that are not in order, and not equal, the other comes first. -/
theorem lt_of_not_lt_of_ne {a b : String} (h : ¬a < b) (hne : a ≠ b) : b < a := by
  rcases String.le_total a b with hab | hba
  · exact absurd (String.le_antisymm hab (String.not_lt.1 h)) hne
  · exact String.not_le.1 fun hab => hne (String.le_antisymm hab hba)

theorem sorted_insertEntry (key : String) (value : α) {l : List (String × α)}
    (h : l.Pairwise (fun a b => a.1 < b.1)) :
    (insertEntry key value l).Pairwise (fun a b => a.1 < b.1) := by
  induction l with
  | nil => exact List.pairwise_singleton _ _
  | cons head rest ih =>
    obtain ⟨k, v⟩ := head
    obtain ⟨hhead, hrest⟩ := List.pairwise_cons.1 h
    unfold insertEntry
    split
    · -- The new entry comes before all others.
      rename_i hlt
      refine List.pairwise_cons.2 ⟨fun e he => ?_, h⟩
      rcases List.mem_cons.1 he with he | he
      · exact he ▸ hlt
      · exact String.lt_trans hlt (hhead e he)
    · rename_i hlt
      split
      · rename_i heq
        exact List.pairwise_cons.2 ⟨fun e he => heq ▸ hhead e he, hrest⟩
      · -- It goes somewhere behind the first one, which stays in front.
        rename_i hne
        refine List.pairwise_cons.2 ⟨fun e he => ?_, ih hrest⟩
        rcases mem_insertEntry he with he | he
        · exact he ▸ lt_of_not_lt_of_ne hlt hne
        · exact hhead e he

/-- The map with `key` set to `value`; a value that the key had before is replaced. -/
def insert (m : SortedMap α) (key : String) (value : α) : SortedMap α :=
  ⟨insertEntry key value m.entries, sorted_insertEntry key value m.sorted⟩

/-- The map without the entry of `key`. -/
def erase (m : SortedMap α) (key : String) : SortedMap α :=
  ⟨m.entries.filter fun e => e.1 != key, m.sorted.filter _⟩

/-- Inserts the entries of a list one after the other, so the last of a key wins. -/
def insertAll (m : SortedMap α) (l : List (String × α)) : SortedMap α :=
  l.foldl (fun acc e => acc.insert e.1 e.2) m

/-- The map of the entries of a list; the last entry of a key wins. -/
def ofList (l : List (String × α)) : SortedMap α := empty.insertAll l

/-- The map with one entry. -/
def singleton (key : String) (value : α) : SortedMap α := empty.insert key value

/-- The entries of both maps; where both have a key, the value of the second. -/
def merge (m other : SortedMap α) : SortedMap α := m.insertAll other.entries

/-- The same keys with the values changed by `f`. -/
def map {β : Type u} (f : α → β) (m : SortedMap α) : SortedMap β :=
  ⟨m.entries.map fun e => (e.1, f e.2), by
    rw [List.pairwise_map]; exact m.sorted⟩

/-- Whether every entry satisfies `p`. -/
def all (m : SortedMap α) (p : String → α → Bool) : Bool := m.entries.all fun e => p e.1 e.2

/-- Changes every value by a function that may fail; the first failure in key order is the result. -/
def mapM {β ε : Type u} (f : String → α → Except ε β) (m : SortedMap α) :
    Except ε (SortedMap β) := do
  let entries ← m.entries.mapM fun e => do
    let b ← f e.1 e.2
    pure (e.1, b)
  pure (ofList entries)

/-! ### The view `get?` -/

@[simp] theorem get?_empty (key : String) : (empty : SortedMap α).get? key = none := rfl

/-- A look-up compares the key with the first entry and goes on with the rest. -/
theorem lookup_cons_eq_ite (k : String) (e : String × α) (l : List (String × α)) :
    (e :: l).lookup k = if k = e.1 then some e.2 else l.lookup k := by
  rw [List.lookup_cons]
  by_cases h : k = e.1
  · rw [if_pos h, beq_iff_eq.2 h]
  · rw [if_neg h, beq_eq_false_iff_ne.2 h]

theorem lookup_insertEntry (key : String) (value : α) (k : String) (l : List (String × α)) :
    (insertEntry key value l).lookup k = if k = key then some value else l.lookup k := by
  induction l with
  | nil => exact lookup_cons_eq_ite k (key, value) []
  | cons head rest ih =>
    obtain ⟨k', v⟩ := head
    unfold insertEntry
    split
    · exact lookup_cons_eq_ite k (key, value) ((k', v) :: rest)
    · split
      · rename_i heq
        rw [lookup_cons_eq_ite, lookup_cons_eq_ite]
        by_cases h : k = key
        · simp [h]
        · have h' : k ≠ k' := heq ▸ h
          rw [if_neg h, if_neg h, if_neg h']
      · rename_i hne
        rw [lookup_cons_eq_ite, lookup_cons_eq_ite, ih]
        by_cases h : k = k'
        · have h' : k ≠ key := fun hk => hne (hk ▸ h)
          rw [if_pos h, if_neg h', if_pos h]
        · rw [if_neg h, if_neg h]

theorem get?_insert (m : SortedMap α) (key : String) (value : α) (k : String) :
    (m.insert key value).get? k = if k = key then some value else m.get? k :=
  lookup_insertEntry key value k m.entries

theorem lookup_filter_ne (key k : String) (l : List (String × α)) :
    (l.filter fun e => e.1 != key).lookup k = if k = key then none else l.lookup k := by
  induction l with
  | nil => simp
  | cons head rest ih =>
    by_cases hk : head.1 = key
    · rw [List.filter_cons_of_neg (by simpa using hk), ih, lookup_cons_eq_ite]
      by_cases h : k = key
      · simp [h]
      · have h' : k ≠ head.1 := hk ▸ h
        rw [if_neg h, if_neg h, if_neg h']
    · rw [List.filter_cons_of_pos (by simpa using hk), lookup_cons_eq_ite, lookup_cons_eq_ite, ih]
      by_cases h : k = head.1
      · have h' : k ≠ key := fun hkey => hk (h ▸ hkey)
        rw [if_pos h, if_neg h', if_pos h]
      · rw [if_neg h, if_neg h]

theorem get?_erase (m : SortedMap α) (key k : String) :
    (m.erase key).get? k = if k = key then none else m.get? k :=
  lookup_filter_ne key k m.entries

@[simp] theorem get?_of_isEmpty {m : SortedMap α} (h : m.isEmpty = true) (k : String) :
    m.get? k = none := by
  unfold get?
  rw [List.isEmpty_iff.1 h]
  rfl

theorem lookup_eq_none_of_forall_lt {key : String} {l : List (String × α)}
    (h : ∀ e ∈ l, key < e.1) : l.lookup key = none := by
  induction l with
  | nil => rfl
  | cons head rest ih =>
    have hlt : key < head.1 := h head List.mem_cons_self
    have hne : key ≠ head.1 := fun he => String.lt_irrefl _ (he ▸ hlt)
    rw [lookup_cons_eq_ite, if_neg hne]
    exact ih fun e he => h e (List.mem_cons_of_mem _ he)

/-- Inserting the entries of a sorted list, in which every key stands once. -/
theorem get?_insertAll {l : List (String × α)} (h : l.Pairwise (fun a b => a.1 < b.1))
    (m : SortedMap α) (k : String) : (m.insertAll l).get? k = (l.lookup k).or (m.get? k) := by
  unfold insertAll
  induction l generalizing m with
  | nil => rfl
  | cons head rest ih =>
    obtain ⟨hhead, hrest⟩ := List.pairwise_cons.1 h
    rw [List.foldl_cons, ih hrest, get?_insert, lookup_cons_eq_ite]
    by_cases hk : k = head.1
    · rw [hk, lookup_eq_none_of_forall_lt hhead]
      simp
    · rw [if_neg hk, if_neg hk]

/-- A merged map has the value of the second map, and else that of the first. -/
theorem get?_merge (m other : SortedMap α) (k : String) :
    (m.merge other).get? k = (other.get? k).or (m.get? k) :=
  get?_insertAll other.sorted m k

/-- The first key of a sorted list is not found in a list that starts later. -/
theorem lookup_eq_none_of_lt_head {key : String} {e : String × α} {l : List (String × α)}
    (h : (e :: l).Pairwise (fun a b => a.1 < b.1)) (hlt : key < e.1) :
    (e :: l).lookup key = none := by
  refine lookup_eq_none_of_forall_lt fun x hx => ?_
  rcases List.mem_cons.1 hx with hx | hx
  · exact hx ▸ hlt
  · exact String.lt_trans hlt ((List.pairwise_cons.1 h).1 x hx)

/-- Two sorted lists with the same look-ups are the same list. -/
theorem eq_of_lookup_eq {l₁ l₂ : List (String × α)}
    (h₁ : l₁.Pairwise (fun a b => a.1 < b.1)) (h₂ : l₂.Pairwise (fun a b => a.1 < b.1))
    (h : ∀ k, l₁.lookup k = l₂.lookup k) : l₁ = l₂ := by
  induction l₁ generalizing l₂ with
  | nil =>
    cases l₂ with
    | nil => rfl
    | cons b bs =>
      have := h b.1
      rw [lookup_cons_eq_ite, if_pos rfl] at this
      exact nomatch this
  | cons a as ih =>
    cases l₂ with
    | nil =>
      have := h a.1
      rw [lookup_cons_eq_ite, if_pos rfl] at this
      exact nomatch this
    | cons b bs =>
      -- The smaller of two different first keys would be found in one list only.
      have hkey : a.1 = b.1 := by
        apply Classical.byContradiction
        intro hne
        by_cases hlt : a.1 < b.1
        · have := h a.1
          rw [lookup_eq_none_of_lt_head h₂ hlt, lookup_cons_eq_ite, if_pos rfl] at this
          exact nomatch this
        · have := h b.1
          rw [lookup_eq_none_of_lt_head h₁ (lt_of_not_lt_of_ne hlt hne), lookup_cons_eq_ite,
            if_pos rfl] at this
          exact nomatch this
      obtain ⟨ha, has⟩ := List.pairwise_cons.1 h₁
      obtain ⟨hb, hbs⟩ := List.pairwise_cons.1 h₂
      have hval : a.2 = b.2 := by
        have := h a.1
        rw [lookup_cons_eq_ite, lookup_cons_eq_ite, if_pos rfl, if_pos hkey] at this
        exact Option.some.inj this
      have htail : as = bs := by
        refine ih has hbs fun k => ?_
        by_cases hk : k = a.1
        · rw [hk, lookup_eq_none_of_forall_lt ha, hkey, lookup_eq_none_of_forall_lt hb]
        · have := h k
          rwa [lookup_cons_eq_ite, lookup_cons_eq_ite, if_neg hk, if_neg (hkey ▸ hk)] at this
      rw [show a = b from Prod.ext hkey hval, htail]

/-- A map is determined by its look-ups. -/
theorem ext_get? {m₁ m₂ : SortedMap α} (h : ∀ k, m₁.get? k = m₂.get? k) : m₁ = m₂ := by
  obtain ⟨l₁, s₁⟩ := m₁
  obtain ⟨l₂, s₂⟩ := m₂
  obtain rfl : l₁ = l₂ := eq_of_lookup_eq s₁ s₂ h
  rfl

theorem mem_of_lookup_eq_some {key : String} {value : α} {l : List (String × α)}
    (h : l.lookup key = some value) : (key, value) ∈ l := by
  induction l with
  | nil => cases h
  | cons head rest ih =>
    rw [lookup_cons_eq_ite] at h
    split at h
    · rename_i hkey
      obtain rfl := Option.some.inj h
      rw [hkey]
      exact List.mem_cons_self
    · exact List.mem_cons_of_mem _ (ih h)

/-- In a sorted list an entry is found under its key. -/
theorem lookup_of_mem {l : List (String × α)} (h : l.Pairwise (fun a b => a.1 < b.1))
    {e : String × α} (he : e ∈ l) : l.lookup e.1 = some e.2 := by
  induction l with
  | nil => cases he
  | cons head rest ih =>
    obtain ⟨hhead, hrest⟩ := List.pairwise_cons.1 h
    rw [lookup_cons_eq_ite]
    rcases List.mem_cons.1 he with rfl | he
    · exact if_pos rfl
    · have hne : e.1 ≠ head.1 := fun heq => String.lt_irrefl _ (heq ▸ hhead e he)
      rw [if_neg hne]
      exact ih hrest he

/-- The entries are the keys with their values. -/
theorem mem_entries_iff {m : SortedMap α} {key : String} {value : α} :
    (key, value) ∈ m.entries ↔ m.get? key = some value :=
  ⟨fun h => lookup_of_mem m.sorted h, mem_of_lookup_eq_some⟩

/-- A map can be built again from its entries. -/
@[simp] theorem ofList_entries (m : SortedMap α) : ofList m.entries = m := by
  refine ext_get? fun k => ?_
  show (empty.insertAll m.entries).get? k = m.get? k
  rw [get?_insertAll m.sorted, get?_empty, Option.or_none]
  rfl

/-- Setting a key to the value that it has changes nothing. -/
theorem insert_of_get? {m : SortedMap α} {key : String} {value : α}
    (h : m.get? key = some value) : m.insert key value = m := by
  refine ext_get? fun k => ?_
  rw [get?_insert]
  split
  · rename_i hk
    rw [hk, h]
  · rfl

end SortedMap

end SecretSync
