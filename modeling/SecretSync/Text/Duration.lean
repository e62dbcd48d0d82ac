/-!
# `SecretSync.Text.Duration`: spans of time and their text

A span is a whole number of nanoseconds. Its text uses the largest of the
units `s`, `ms`, `µs` and `ns` in which it is at least one, with an exact
fraction that has no trailing zeros.
-/

set_option autoImplicit false

namespace SecretSync

/-- A span of time. -/
structure Duration where
  nanos : Nat
  deriving DecidableEq, Repr, Inhabited

namespace Duration

/-- A span of whole seconds. -/
def ofSecs (secs : Nat) : Duration := ⟨secs * 1000000000⟩

/-- A span of whole milliseconds. -/
def ofMillis (millis : Nat) : Duration := ⟨millis * 1000000⟩

/-- The last `places` decimal digits of `n`, trailing zeros left out. -/
def fractionDigits (places n : Nat) : List Char :=
  let digits := Nat.toDigits 10 n
  let padded := List.replicate (places - digits.length) '0' ++ digits
  (padded.reverse.dropWhile (· == '0')).reverse

/-- `nanos` counted in a unit of `10 ^ places` nanoseconds. -/
def inUnit (places nanos : Nat) (unit : String) : String :=
  let whole := toString (nanos / Nat.pow 10 places)
  match fractionDigits places (nanos % Nat.pow 10 places) with
  | [] => whole ++ unit
  | digits => whole ++ "." ++ String.ofList digits ++ unit

/-- The text of a span. -/
def text (d : Duration) : String :=
  if d.nanos ≥ 1000000000 then inUnit 9 d.nanos "s"
  else if d.nanos ≥ 1000000 then inUnit 6 d.nanos "ms"
  else if d.nanos ≥ 1000 then inUnit 3 d.nanos "µs"
  else inUnit 0 d.nanos "ns"

end Duration

end SecretSync
