import SecretSync.Event
import SecretSync.Text.Decimal

/-!
# `SecretSync.Metrics.Basic`: counting what happens

Three counters are kept by label, two are plain, and the time of every sync
goes into a histogram. `Metrics.count` takes up one measurement. Programs in
this library are values and take no time, so a sync that is measured here
took zero seconds; `observe` takes any time.

The families become visible once they are registered, which can be done only
once. They count before that, too.
-/

set_option autoImplicit false

namespace SecretSync

/-- Observed times: for every bound the number of observations that do not exceed it, the sum of
all observations in the order they came, and their number. -/
structure Histogram where
  atMost : List (Float × Nat)
  sum : Float := 0
  total : Nat := 0

namespace Histogram

/-- The bounds for the time of a sync, in seconds. -/
def syncBounds : List Float := [0.01, 0.05, 0.1, 0.5, 1, 5, 30]

/-- The histogram without observations. -/
def empty : Histogram := ⟨syncBounds.map fun bound => (bound, 0), 0, 0⟩

/-- Takes up one observation. -/
def observe (h : Histogram) (seconds : Float) : Histogram where
  atMost := h.atMost.map fun b => (b.1, if seconds ≤ b.1 then b.2 + 1 else b.2)
  sum := h.sum + seconds
  total := h.total + 1

end Histogram

/-- All counters. -/
structure Metrics where
  registered : Bool := false
  /-- Written secrets by the way they were written. -/
  written : SortedMap Nat := .empty
  /-- Failed syncs by reason. -/
  failed : SortedMap Nat := .empty
  /-- Lost races by the way to write that was given up. -/
  fellBack : SortedMap Nat := .empty
  stale : Nat := 0
  listings : Nat := 0
  times : Histogram := .empty

/-- The complaint about registering twice. -/
def Metrics.registeredTwice : String := "Duplicate metrics collector registration attempted"

namespace Metrics

/-- No counts. -/
def empty : Metrics := {}

/-- One more for a label. -/
def increment (m : SortedMap Nat) (label : String) : SortedMap Nat :=
  m.insert label ((m.get? label).getD 0 + 1)

/-- Counts a written secret. -/
def countWritten (m : Metrics) (label : String) : Metrics :=
  { m with written := increment m.written label }

/-- Counts a failed sync. -/
def countFailed (m : Metrics) (reason : String) : Metrics :=
  { m with failed := increment m.failed reason }

/-- Counts a lost race. -/
def countFellBack (m : Metrics) (label : String) : Metrics :=
  { m with fellBack := increment m.fellBack label }

/-- Counts a stale secret. -/
def countStale (m : Metrics) : Metrics := { m with stale := m.stale + 1 }

/-- Counts a listing. -/
def countListing (m : Metrics) : Metrics := { m with listings := m.listings + 1 }

/-- Takes up the time of a sync. -/
def observe (m : Metrics) (seconds : Float) : Metrics := { m with times := m.times.observe seconds }

/-- Takes up a measurement. -/
def count (m : Metrics) : Measurement → Metrics
  | .written kind => m.countWritten kind.label
  | .syncFailed reason => m.countFailed reason
  | .syncTimed => m.observe 0
  | .fellBack lost => m.countFellBack lost.label
  | .staleFound => m.countStale
  | .listed => m.countListing

/-- Takes up the measurements among events. -/
def countAll (m : Metrics) (events : List Event) : Metrics :=
  events.foldl (fun m e => match e with
    | .measure x => m.count x
    | _ => m) m

/-- Makes the families visible. -/
def register (m : Metrics) : Except String Metrics :=
  if m.registered then .error registeredTwice else .ok { m with registered := true }

end Metrics

end SecretSync
