import Mathlib.Algebra.Ring.Nat
import SecretSync.Metrics.Basic
import SecretSync.Proofs.SortedMap

/-!
# `SecretSync.Proofs.Metrics.Counters`: what the counters count

`Metrics.countAll` takes up the measurements among some events, one after the
other. Every counter has its own kind of measurement. `Metrics.Counts` says so
of a reading of the counters: one measurement raises the reading by one if it
is of that kind, and else leaves it as it is. The main statements:

* `Metrics.Counts.countAll`: after any events a reading is what it was before,
  and the number of measurements of its kind more.
* `Metrics.label_of_countAll`: a counter of failures has the labels of the
  failures that were measured, and no other one.
-/

set_option autoImplicit false

namespace SecretSync

/-- The measurements among some events. -/
def measurements (events : List Event) : List Measurement :=
  events.filterMap fun
    | .measure x => some x
    | _ => none

@[simp] theorem measurements_append (events events' : List Event) :
    measurements (events ++ events') = measurements events ++ measurements events' :=
  List.filterMap_append

namespace Measurement

/-- Whether a secret was written. -/
@[simp] def isWritten : Measurement → Bool
  | .written _ => true
  | _ => false

/-- Whether a sync failed. -/
@[simp] def isSyncFailed : Measurement → Bool
  | .syncFailed _ => true
  | _ => false

end Measurement

namespace Metrics

/-- The sum of a counter over its labels. -/
def total (counts : SortedMap Nat) : Nat := counts.values.sum

/-- How often a way to write lost a race. -/
def fallbacks (m : Metrics) (lost : WriteKind) : Nat := (m.fellBack.get? lost.label).getD 0

theorem total_increment (counts : SortedMap Nat) (label : String) :
    total (increment counts label) = total counts + 1 := by
  have hsum := counts.sumOf_insert (fun _ n => n) label ((counts.get? label).getD 0 + 1)
  -- What the label stood for before goes out of the sum, and one more comes in.
  have hold : counts.weightAt (fun _ n => n) label = (counts.get? label).getD 0 := by
    unfold SortedMap.weightAt
    cases counts.get? label <;> rfl
  rw [hold] at hsum
  have htotal : ∀ m : SortedMap Nat, total m = m.sumOf fun _ n => n := fun _ => rfl
  show total (counts.insert label ((counts.get? label).getD 0 + 1)) = _
  rw [htotal, htotal]
  omega

theorem get?_increment (counts : SortedMap Nat) (label l : String) :
    (increment counts label).get? l
      = if l = label then some ((counts.get? label).getD 0 + 1) else counts.get? l :=
  SortedMap.get?_insert counts label _ l

/-! ### Readings -/

/-- A measurement raises the reading by one if it satisfies `p`, and else leaves it as it is. -/
def Counts (reading : Metrics → Nat) (p : Measurement → Bool) : Prop :=
  ∀ m x, reading (m.count x) = reading m + if p x then 1 else 0

/-- Only the measurements matter to the counters. -/
theorem countAll_eq (m : Metrics) (events : List Event) :
    m.countAll events = (measurements events).foldl count m := by
  unfold countAll measurements
  induction events generalizing m with
  | nil => rfl
  | cons e rest ih => cases e <;> exact ih _

/-- A reading is what it was, and the number of measurements of its kind more. -/
theorem Counts.countAll {reading : Metrics → Nat} {p : Measurement → Bool} (h : Counts reading p)
    (m : Metrics) (events : List Event) :
    reading (m.countAll events) = reading m + (measurements events).countP p := by
  rw [countAll_eq]
  induction measurements events generalizing m with
  | nil => rfl
  | cons x rest ih =>
    rw [List.foldl_cons, ih, h m x, List.countP_cons]
    omega

theorem counts_timed : Counts (·.times.total) (· == .syncTimed) := by
  intro m x
  cases x <;> rfl

theorem counts_written : Counts (fun m => total m.written) Measurement.isWritten := by
  intro m x
  cases x with
  | written kind => exact total_increment m.written kind.label
  | _ => rfl

theorem counts_failed : Counts (fun m => total m.failed) Measurement.isSyncFailed := by
  intro m x
  cases x with
  | syncFailed reason => exact total_increment m.failed reason
  | _ => rfl

theorem counts_fallbacks (lost : WriteKind) : Counts (·.fallbacks lost) (· == .fellBack lost) := by
  intro m x
  cases x with
  | fellBack kind =>
    show ((increment m.fellBack kind.label).get? lost.label).getD 0 = _
    rw [get?_increment]
    cases kind <;> cases lost <;> simp [fallbacks, WriteKind.label]
  | _ => rfl

theorem counts_stale : Counts (·.stale) (· == .staleFound) := by
  intro m x
  cases x <;> rfl

theorem counts_listings : Counts (·.listings) (· == .listed) := by
  intro m x
  cases x <;> rfl

/-! ### Labels -/

theorem label_of_count {m : Metrics} {x : Measurement} {label : String}
    (h : (m.count x).failed.contains label = true) :
    m.failed.contains label = true ∨ x = .syncFailed label := by
  cases x with
  | syncFailed reason =>
    by_cases hl : label = reason
    · exact .inr (congrArg _ hl.symm)
    · left
      have hget : (increment m.failed reason).get? label = m.failed.get? label := by
        rw [get?_increment, if_neg hl]
      unfold SortedMap.contains at h ⊢
      rw [← hget]
      exact h
  | _ => exact .inl h

/-- A failure is counted under the reason that was measured. -/
theorem label_of_countAll {m : Metrics} {events : List Event} {label : String}
    (h : (m.countAll events).failed.contains label = true) :
    m.failed.contains label = true ∨ .syncFailed label ∈ measurements events := by
  rw [countAll_eq] at h
  generalize measurements events = xs at h ⊢
  induction xs generalizing m with
  | nil => exact .inl h
  | cons x rest ih =>
    rcases ih h with hearlier | hlater
    · rcases label_of_count hearlier with hstart | rfl
      · exact .inl hstart
      · exact .inr List.mem_cons_self
    · exact .inr (List.mem_cons_of_mem _ hlater)

end Metrics

end SecretSync
