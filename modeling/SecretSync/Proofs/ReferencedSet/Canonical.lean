import Mathlib.Data.List.Induction
import Mathlib.Data.List.Nodup
import SecretSync.Proofs.ReferencedSet

/-!
# `SecretSync.Proofs.ReferencedSet.Canonical`: one text for each set

A value may be written by anybody, with blanks, gaps and repetitions. `Reads`
says which set it stands for: its trimmed pieces, the empty ones left out, each
where it stands first. The order is by the first index (`List.idxOf`), and
`pairwise_idxOf_foldl_add` gets it by induction along the pieces; that nothing
is listed twice comes out of it.

Writing that set gives the canonical text for it. `canonical_toString` says what
such a text looks like. `round_trip` puts both together: sets of writable
entries come back whole, and what is read from any text at all is such a set.
-/

set_option autoImplicit false

namespace SecretSync

namespace ReferencedSet

/-! ### What a value stands for -/

/-- The pieces of a value, trimmed; some may be empty. -/
def trimmedPieces (value : String) : List String :=
  (Text.splitAll delimiter value).map Text.trim

/-- The set that a value stands for. -/
structure Reads (value : String) (s : ReferencedSet) : Prop where
  contains : ∀ e, s.contains e = true ↔
    e ≠ "" ∧ ∃ piece ∈ Text.splitAll delimiter value, Text.trim piece = e
  nodup : s.entries.Nodup
  writable : ∀ e ∈ s.entries, Writable e
  /-- Of two entries the one whose first occurrence comes first stands first. -/
  order : s.entries.Pairwise fun a b =>
    (trimmedPieces value).idxOf a < (trimmedPieces value).idxOf b

/-- Pieces that are added one after the other stand in the order of their first occurrences. -/
theorem pairwise_idxOf_foldl_add (pieces : List String) :
    ((pieces.filter (· != "")).foldl add empty).entries.Pairwise fun a b =>
      pieces.idxOf a < pieces.idxOf b := by
  induction pieces using List.reverseRecOn with
  | nil => exact List.Pairwise.nil
  | append_singleton pieces piece ih =>
    -- An entry that is there already was a piece, and a later piece does not move it.
    have hpiece : ∀ e ∈ ((pieces.filter (· != "")).foldl add empty).entries, e ∈ pieces := by
      intro e he
      rcases (mem_foldl_add _ _ e).1 he with hnone | hmem
      · cases hnone
      · exact List.mem_of_mem_filter hmem
    have hkept : ((pieces.filter (· != "")).foldl add empty).entries.Pairwise fun a b =>
        (pieces ++ [piece]).idxOf a < (pieces ++ [piece]).idxOf b := by
      refine ih.imp_of_mem fun {a b} ha hb hlt => ?_
      rwa [List.idxOf_append_of_mem (hpiece a ha), List.idxOf_append_of_mem (hpiece b hb)]
    rw [List.filter_append, List.foldl_append]
    by_cases hempty : piece = ""
    · rw [hempty] at hkept ⊢
      exact hkept
    · rw [List.filter_cons_of_pos (by simpa using hempty), List.filter_nil, List.foldl_cons,
        List.foldl_nil]
      generalize hs : (pieces.filter (· != "")).foldl add empty = s at hpiece hkept ⊢
      unfold add
      split
      · exact hkept
      · rename_i hnew
        refine List.pairwise_append.2 ⟨hkept, List.pairwise_singleton _ piece, ?_⟩
        intro a ha b hb
        obtain rfl := List.mem_singleton.1 hb
        have hfirst : b ∉ pieces := by
          intro hb
          refine hnew ((contains_iff s b).2 ?_)
          rw [← hs, mem_foldl_add]
          exact .inr (List.mem_filter.2 ⟨hb, by simpa using hempty⟩)
        have hlt := List.idxOf_lt_length_iff.2 (hpiece a ha)
        rw [List.idxOf_append_of_mem (hpiece a ha), List.idxOf_append_of_notMem hfirst]
        omega

theorem reads_parse (value : String) : Reads value (parse value) := by
  have horder : (parse value).entries.Pairwise fun a b =>
      (trimmedPieces value).idxOf a < (trimmedPieces value).idxOf b :=
    pairwise_idxOf_foldl_add (trimmedPieces value)
  refine ⟨?_, ?_, ?_, horder⟩
  · intro e
    rw [contains_iff, mem_parse, mem_listed]
  · refine horder.imp fun {a b} hlt => ?_
    rintro rfl
    exact Nat.lt_irrefl _ hlt
  · exact fun e he => writable_of_mem_listed ((mem_parse value e).1 he)

/-! ### The text of a set -/

/-- A text without gaps and repetitions. -/
structure Canonical (text : String) : Prop where
  delimited : Text.Delimited delimiter text.toList
  nodup : (Text.splitAll delimiter text).Nodup

/-- A set of writable entries is written without gaps and repetitions. -/
theorem canonical_toString {entries : List String} (hnodup : entries.Nodup)
    (hwritable : ∀ e ∈ entries, Writable e) : Canonical (toString ⟨entries⟩) where
  delimited := delimited_toString hwritable
  nodup := by
    by_cases hne : entries = []
    · -- The empty text has one piece.
      rw [hne]
      decide
    · rw [splitAll_toString hne hwritable]
      exact hnodup

theorem nodup_add {s : ReferencedSet} (hs : s.entries.Nodup) (e : String) :
    (s.add e).entries.Nodup := by
  unfold add
  split
  · exact hs
  · rename_i hnew
    refine List.nodup_append.2 ⟨hs, List.nodup_singleton e, ?_⟩
    intro a ha b hb hab
    rw [hab, List.mem_singleton.1 hb] at ha
    exact hnew ((contains_iff s e).2 ha)

/-! ### Reading and writing -/

/-- Reading and writing are inverse to each other as far as they can be. Different entries that can
be written come back from their text, in their order. From any text at all the set is read that it
stands for, the text of that set is canonical and stands for the same set, and it makes no
difference whether an entry is added or removed before the set is written and read again, or
after. -/
theorem round_trip :
    (∀ entries : List String, entries.Nodup → (∀ e ∈ entries, Writable e) →
      parse (toString ⟨entries⟩) = ⟨entries⟩) ∧
    ∀ value : String,
      Reads value (parse value) ∧
      Canonical (parse value).toString ∧
      parse (parse value).toString = parse value ∧
      (∀ e, Writable e →
        parse ((parse value).add e).toString = (parse (parse value).toString).add e) ∧
      ∀ e, parse ((parse value).remove e).toString = (parse (parse value).toString).remove e := by
  refine ⟨fun entries => parse_toString, fun value => ?_⟩
  have hreads := reads_parse value
  have hagain : parse (parse value).toString = parse value :=
    parse_toString hreads.nodup hreads.writable
  refine ⟨hreads, canonical_toString hreads.nodup hreads.writable, hagain, ?_, ?_⟩
  · intro e he
    rw [hagain]
    refine parse_toString (nodup_add hreads.nodup e) fun x hx => ?_
    rcases (mem_add _ e x).1 hx with hx | rfl
    · exact hreads.writable x hx
    · exact he
  · intro e
    rw [hagain]
    exact parse_toString (hreads.nodup.filter _) fun x hx =>
      hreads.writable x (List.mem_of_mem_filter hx)

/-- A text with gaps, repetitions and a no-break space stands for two entries. They come back from
their own text, and so does a third one that is added to them. -/
theorem round_trip_ragged :
    let value := " team-b/db ,,\u00a0team-a/creds,team-b/db,"
    let entries := ["team-b/db", "team-a/creds"]
    entries.Nodup ∧ (∀ e ∈ entries, Writable e) ∧ parse (toString ⟨entries⟩) = ⟨entries⟩ ∧
      parse value = ⟨entries⟩ ∧ Writable "team c/ü" ∧
      parse ((parse value).add "team c/ü").toString = ⟨entries ++ ["team c/ü"]⟩ := by
  intro value entries
  obtain ⟨hback, hread⟩ := round_trip
  obtain ⟨-, -, hagain, hadd, -⟩ := hread value
  have hnodup : entries.Nodup := by decide
  have hwritable : ∀ e ∈ entries, Writable e := by
    intro e he
    simp only [entries, List.mem_cons, List.not_mem_nil, or_false] at he
    rcases he with rfl | rfl <;> exact ⟨by decide, by decide +kernel, by decide⟩
  have hnew : Writable "team c/ü" := ⟨by decide, by decide +kernel, by decide⟩
  have hparse : parse value = ⟨entries⟩ := by decide +kernel
  refine ⟨hnodup, hwritable, hback entries hnodup hwritable, hparse, hnew, ?_⟩
  rw [hadd _ hnew, hagain, hparse]
  decide

end ReferencedSet

end SecretSync
