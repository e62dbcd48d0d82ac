import SecretSync.Api.Server
import SecretSync.Proofs.Json.Fields
import SecretSync.Proofs.Store.Kinds

/-!
# `SecretSync.Proofs.Api.Rejections`: errors on the wire

The description of an error is read back (`Rejection.ofJson?_toJson`), so a
client knows of a reply that rejects its request what the server meant
(`HttpReply.read_rejecting`).

`StoreError.rejection` is how a server words a failure of a store. Sorting the
rejection gives a failure of the same kind again, for the three kinds that are
not failures of the way to the server (`alike_rejection`). The same holds of
what a cluster refuses (`alike_refusalRejection`).
-/

set_option autoImplicit false

namespace SecretSync

/-! ### Descriptions of errors -/

/-- A number is read back from its literal. -/
theorem Json.nat?_ofNat (n : Nat) : nat? (ofNat n) = some n := by
  have hdigits : (toString n).toList = Nat.toDigits 10 n := Nat.toList_repr
  have hall : (Nat.toDigits 10 n).all Char.isDigit = true :=
    List.all_eq_true.2 fun c hc => Nat.isDigit_of_mem_toDigits (by decide) (by decide) hc
  have hvalue : (Nat.toDigits 10 n).foldl (fun n d => n * 10 + (d.toNat - '0'.toNat)) 0 = n := by
    have hfold := Nat.ofDigitChars_ten_toDigits (n := n)
    rw [Nat.ofDigitChars_eq_foldl] at hfold
    simpa only [Nat.mul_comm] using hfold
  have hne : (Nat.toDigits 10 n).isEmpty = false := by simp
  unfold nat? ofNat
  simp only [hdigits, hall, hne, hvalue]
  rfl

/-- The description of an error is read back. -/
theorem Rejection.ofJson?_toJson {r : Rejection} (h : r.code ≤ 0xFFFF) :
    ofJson? r.toJson = some r := by
  unfold ofJson? toJson
  simp [Document.knownFields?, Document.eachOnce, Document.fields?, Json.obj?, Document.required,
    Json.findField, descriptionText, Document.withDefault, Json.str?, Json.nat?_ofNat, h]

/-- What a reply that rejects a request is read as. -/
theorem HttpReply.read_rejecting {α : Type} (ofJson? : Json → Option α) {r : Rejection}
    (h : isErrorStatus r.code = true) :
    (rejecting r).read ofJson? = some (.error (.rejected r)) := by
  have hcode : r.code ≤ 0xFFFF := by
    unfold isErrorStatus at h
    rw [Bool.and_eq_true, decide_eq_true_eq, decide_eq_true_eq] at h
    omega
  simp [rejecting, read, h, Rejection.ofBody, HttpBody.json?, Rejection.ofJson?_toJson hcode]

/-! ### Failures of a store -/

/-- The words of a server for a failure. -/
def StoreError.rejection : StoreError → Rejection
  | .notFound detail => ⟨"Failure", detail, "NotFound", 404⟩
  | .alreadyExists detail => ⟨"Failure", detail, "AlreadyExists", 409⟩
  | .conflict detail => ⟨"Failure", detail, "Conflict", 409⟩
  | e => ⟨"Failure", e.message, "InternalError", 500⟩

theorem StoreError.isErrorStatus_rejection (e : StoreError) :
    isErrorStatus e.rejection.code = true := by
  cases e <;> rfl

/-- A refusal that a server has worded is a refusal of the same kind. -/
theorem StoreError.alike_rejection {e : StoreError} (h : e.IsRefusal) :
    e.Alike (ofApiFailure (.rejected e.rejection)) := by
  cases e with
  | notFound detail => rfl
  | alreadyExists detail => rfl
  | conflict detail => rfl
  | timeout limit => rcases h with h | h | h <;> cases h
  | api failure => rcases h with h | h | h <;> cases h
  | other detail => rcases h with h | h | h <;> cases h

theorem ApiServer.isErrorStatus_refusalRejection (e : Refusal) :
    isErrorStatus (refusalRejection e).code = true := by
  cases e <;> rfl

/-- What a cluster refuses is a failure of the same kind for both of its clients. -/
theorem ApiServer.alike_refusalRejection (ns : String) (e : Refusal) :
    (Cluster.refusalError ns e).Alike
      (StoreError.ofApiFailure (.rejected (refusalRejection e))) := by
  cases e <;> rfl

end SecretSync
