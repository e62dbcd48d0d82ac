import Mathlib.Algebra.Ring.Nat
import SecretSync.Proofs.Text.Segments
import SecretSync.Text.Blank

/-!
# `SecretSync.Proofs.Text.Sizes`: what makes a text shorter

The size of a text is the number of bytes of its UTF-8 encoding, the sum over
its characters. So a text from which characters were taken, wherever they
stood, is not larger (`utf8ByteSize_le_of_sublist`).

Trimming takes characters away (`trimChars_sublist`). So does joining again
fewer of the pieces of a text, because with each piece a delimiter goes
(`joinWith_sublist`). `joinWith_trimmed_sublist` is both at once.
-/

set_option autoImplicit false

namespace SecretSync.Text

/-- The bytes of some characters. -/
def charBytes (cs : List Char) : Nat := (cs.map Char.utf8Size).sum

theorem utf8ByteSize_ofList (cs : List Char) : (String.ofList cs).utf8ByteSize = charBytes cs := by
  induction cs with
  | nil => rfl
  | cons c cs ih =>
    have hsplit : String.ofList (c :: cs) = String.singleton c ++ String.ofList cs := by
      rw [← String.toList_inj]
      simp
    rw [hsplit, String.utf8ByteSize_append, String.utf8ByteSize_singleton, ih]
    rfl

theorem charBytes_toList (s : String) : charBytes s.toList = s.utf8ByteSize := by
  rw [← utf8ByteSize_ofList, String.ofList_toList]

/-- A text from which characters were taken is not larger. -/
theorem utf8ByteSize_le_of_sublist {s s' : String} (h : s'.toList.Sublist s.toList) :
    s'.utf8ByteSize ≤ s.utf8ByteSize := by
  have hbytes : ∀ {cs cs' : List Char}, cs'.Sublist cs → charBytes cs' ≤ charBytes cs := by
    intro cs cs' h
    induction h with
    | slnil => exact Nat.le_refl 0
    | cons c _ ih => exact Nat.le_trans ih (Nat.le_add_left _ _)
    | cons_cons c _ ih => exact Nat.add_le_add_left ih _
  rw [← charBytes_toList, ← charBytes_toList]
  exact hbytes h

/-! ### Trimming -/

theorem trimChars_sublist (cs : List Char) : (trimChars cs).Sublist cs := by
  have hstart := List.dropWhile_sublist (p := isBlank) (l := cs)
  have hend := (List.dropWhile_sublist (p := isBlank) (l := (cs.dropWhile isBlank).reverse)).reverse
  rw [List.reverse_reverse] at hend
  exact hend.trans hstart

/-- The trimmed pieces of a string, as characters. -/
theorem map_toList_trim_splitAll (d : Char) (s : String) :
    ((splitAll d s).map trim).map String.toList = (segments d s.toList).map trimChars := by
  unfold splitAll
  rw [List.map_map, List.map_map]
  refine List.map_congr_left fun cs _ => ?_
  simp [trim]

/-! ### Joining -/

variable {d : Char}

theorem joinWith_cons_sublist (piece : List Char) (pieces : List (List Char)) :
    (joinWith d pieces).Sublist (joinWith d (piece :: pieces)) := by
  cases pieces with
  | nil => exact List.nil_sublist _
  | cons next rest =>
    show List.Sublist _ (piece ++ d :: joinWith d (next :: rest))
    exact (List.sublist_cons_self _ _).trans (List.sublist_append_right _ _)

/-- Fewer pieces give a part of the text. -/
theorem joinWith_sublist {pieces pieces' : List (List Char)} (h : pieces'.Sublist pieces) :
    (joinWith d pieces').Sublist (joinWith d pieces) := by
  induction h with
  | slnil => exact List.Sublist.refl _
  | cons piece _ ih => exact ih.trans (joinWith_cons_sublist piece _)
  | @cons_cons pieces' pieces piece h ih =>
    -- Whether a delimiter follows the common first piece depends on what else there is.
    cases pieces' with
    | nil =>
      cases pieces with
      | nil => exact List.Sublist.refl _
      | cons next rest => exact List.sublist_append_left _ _
    | cons next' rest' =>
      cases pieces with
      | nil => exact nomatch h
      | cons next rest => exact (List.Sublist.refl piece).append (ih.cons_cons d)

/-- Trimmed pieces give a part of the text. -/
theorem joinWith_map_trimChars_sublist (pieces : List (List Char)) :
    (joinWith d (pieces.map trimChars)).Sublist (joinWith d pieces) := by
  induction pieces with
  | nil => exact List.Sublist.refl _
  | cons piece rest ih =>
    cases rest with
    | nil => exact trimChars_sublist piece
    | cons next rest => exact (trimChars_sublist piece).append (ih.cons_cons d)

/-- Some of the trimmed pieces of a text, joined again, are a part of it. -/
theorem joinWith_trimmed_sublist {cs : List Char} {pieces : List (List Char)}
    (h : pieces.Sublist ((segments d cs).map trimChars)) :
    (joinWith d pieces).Sublist cs := by
  have hpart := (joinWith_sublist (d := d) h).trans (joinWith_map_trimChars_sublist _)
  rwa [joinWith_segments] at hpart

end SecretSync.Text
