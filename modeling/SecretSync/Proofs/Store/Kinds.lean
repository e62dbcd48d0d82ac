import SecretSync.Store.Basic

/-!
# `SecretSync.Proofs.Store.Kinds`: failures up to their words

A caller of a store tells failures apart by their `kind`, not by their words.
Two failures of one kind are `Alike`, and two replies with the same value or
with alike failures are the same for such a caller (`SameReply`).
-/

set_option autoImplicit false

namespace SecretSync

/-- Two results with the same value, or with failures that are related. -/
inductive SameUpTo {ε α : Type} (E : ε → ε → Prop) : Except ε α → Except ε α → Prop
  | ok (a : α) : SameUpTo E (.ok a) (.ok a)
  | error {e e' : ε} (h : E e e') : SameUpTo E (.error e) (.error e')

theorem SameUpTo.isOk_eq {ε α : Type} {E : ε → ε → Prop} {x y : Except ε α} (h : SameUpTo E x y) :
    x.isOk = y.isOk := by
  cases h <;> rfl

/-- Related failures are put in a wider context. -/
theorem SameUpTo.mapError {ε φ α : Type} {E : ε → ε → Prop} {F : φ → φ → Prop} {f : ε → φ}
    {x y : Except ε α} (h : SameUpTo E x y) (hf : ∀ {e e' : ε}, E e e' → F (f e) (f e')) :
    SameUpTo F (x.mapError f) (y.mapError f) := by
  cases h with
  | ok a => exact .ok a
  | error h => exact .error (hf h)

namespace StoreError

/-- The kinds of failures of a store. -/
inductive Kind where
  | notFound | alreadyExists | conflict | timeout | api | other
  deriving DecidableEq

/-- The kind of a failure. -/
def kind : StoreError → Kind
  | .notFound _ => .notFound
  | .alreadyExists _ => .alreadyExists
  | .conflict _ => .conflict
  | .timeout _ => .timeout
  | .api _ => .api
  | .other _ => .other

/-- Two failures of the same kind. -/
def Alike (e e' : StoreError) : Prop := e.kind = e'.kind

theorem Alike.kind_eq {e e' : StoreError} (h : e.Alike e') : e.kind = e'.kind := h

/-- The failures that are about the object and not about the way to it: it is missing, its name is
taken, or somebody else wrote in between. -/
def IsRefusal (e : StoreError) : Prop :=
  e.kind = .notFound ∨ e.kind = .alreadyExists ∨ e.kind = .conflict

/-- Whether the object is missing is a matter of the kind. -/
theorem isNotFound_eq_kind (e : StoreError) : e.isNotFound = decide (e.kind = .notFound) := by
  cases e <;> rfl

/-- Whether the name is taken is a matter of the kind. -/
theorem isAlreadyExists_eq_kind (e : StoreError) :
    e.isAlreadyExists = decide (e.kind = .alreadyExists) := by
  cases e <;> rfl

variable {e e' : StoreError}

theorem Alike.isNotFound_eq (h : e.Alike e') : e.isNotFound = e'.isNotFound := by
  rw [isNotFound_eq_kind, isNotFound_eq_kind, Alike.kind_eq h]

theorem Alike.isAlreadyExists_eq (h : e.Alike e') : e.isAlreadyExists = e'.isAlreadyExists := by
  rw [isAlreadyExists_eq_kind, isAlreadyExists_eq_kind, Alike.kind_eq h]

end StoreError

/-- Two replies to a request that are the same up to the words of a failure. -/
def SameReply : (r : StoreRequest) → r.Reply → r.Reply → Prop
  | .get _ _ => SameUpTo StoreError.Alike
  | .create _ _ => SameUpTo StoreError.Alike
  | .update _ _ => SameUpTo StoreError.Alike
  | .list _ _ => SameUpTo StoreError.Alike

end SecretSync
