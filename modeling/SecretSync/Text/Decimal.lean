/-!
# `SecretSync.Text.Decimal`: the shortest decimal that reads back

A sample of a metric is written with the fewest decimal digits that read back
as the same number, and without an exponent. The number is taken apart into
`m * 2 ^ q`; the reals that round to it form an interval, and for one digit,
two digits and so on the two neighbours of the number on that decimal grid
are tried until one lies in the interval. All of it is exact arithmetic on
natural numbers.
-/

set_option autoImplicit false

namespace SecretSync.Text.Decimal

/-- A positive number as a quotient, with the half-width of its rounding interval below and above
it as quotients by the same denominator, and whether the ends belong to the interval. -/
structure Interval where
  value : Nat
  below : Nat
  above : Nat
  denominator : Nat
  closed : Bool

/-- The rounding interval of `m * 2 ^ q` with `q = exponent - 1075`; `atPower` says that `m` is a
power of two whose lower neighbour is half as far away as the upper one. -/
def interval (m exponent : Nat) (atPower : Bool) : Interval :=
  let below := if atPower then 1 else 2
  if exponent ≥ 1077 then
    let scale := Nat.pow 2 (exponent - 1077)
    ⟨4 * m * scale, below * scale, 2 * scale, 1, m % 2 == 0⟩
  else ⟨4 * m, below, 2, Nat.pow 2 (1077 - exponent), m % 2 == 0⟩

/-- Whether `n / d` lies in the interval. -/
def Interval.holds (i : Interval) (n d : Nat) : Bool :=
  let x := n * i.denominator
  let low := (i.value - i.below) * d
  let high := (i.value + i.above) * d
  if i.closed then low ≤ x && x ≤ high else low < x && x < high

/-- A decimal `digits * 10 ^ (up - down)`. -/
structure Plain where
  digits : Nat
  up : Nat
  down : Nat
  deriving DecidableEq, Repr

/-- The point on the grid `10 ^ (up - down)` next to the number that lies in the interval. -/
def onGrid? (i : Interval) (up down : Nat) : Option Plain :=
  let num := i.value * Nat.pow 10 down
  let den := i.denominator * Nat.pow 10 up
  let floor := num / den
  let hit (n : Nat) : Bool := i.holds (n * Nat.pow 10 up) (Nat.pow 10 down)
  let lowerIsNearer := 2 * (num - floor * den) < den
  if floor > 0 && hit floor && (lowerIsNearer || !hit (floor + 1)) then some ⟨floor, up, down⟩
  else if hit (floor + 1) then some ⟨floor + 1, up, down⟩
  else none

/-- The number of digits in front of the decimal point; negative for a number below one tenth. -/
def magnitude (i : Interval) : Int :=
  if i.value ≥ i.denominator then (Nat.toDigits 10 (i.value / i.denominator)).length
  else 1 - (Nat.toDigits 10 (i.denominator / i.value)).length

/-- The first grid, from `count` digits on, with a point in the interval. -/
def shortestFrom (i : Interval) (mag : Int) : (fuel count : Nat) → Plain
  | 0, _ => ⟨0, 0, 0⟩
  | fuel + 1, count =>
    let exponent := mag - count
    match onGrid? i exponent.toNat (-exponent).toNat with
    | some p => p
    | none => shortestFrom i mag fuel (count + 1)

/-- The text of a decimal without an exponent. -/
def Plain.text (p : Plain) : String :=
  let digits := Nat.toDigits 10 p.digits
  if p.up ≥ p.down then String.ofList (digits ++ List.replicate (p.up - p.down) '0')
  else
    let places := p.down - p.up
    let padded := List.replicate (places + 1 - digits.length) '0' ++ digits
    let whole := padded.take (padded.length - places)
    let fraction := ((padded.drop (padded.length - places)).reverse.dropWhile (· == '0')).reverse
    match fraction with
    | [] => String.ofList whole
    | _ => String.ofList whole ++ "." ++ String.ofList fraction

/-- The text of a number: the shortest decimal that reads back as it. -/
def shortest (x : Float) : String :=
  let bits := x.toBits.toNat
  let sign := if bits / Nat.pow 2 63 = 1 then "-" else ""
  let exponent := bits / Nat.pow 2 52 % 2048
  let fraction := bits % Nat.pow 2 52
  if exponent = 2047 then if fraction = 0 then sign ++ "inf" else "NaN"
  else if exponent = 0 ∧ fraction = 0 then sign ++ "0"
  else
    let i :=
      if exponent = 0 then interval fraction 1 false
      else interval (fraction + Nat.pow 2 52) exponent (fraction == 0 && exponent > 1)
    sign ++ (shortestFrom i (magnitude i) 18 1).text

end SecretSync.Text.Decimal
