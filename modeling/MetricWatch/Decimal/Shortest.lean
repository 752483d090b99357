/-!
Which digits a double is written with: the fewest that read back to it, and of those the decimal
nearest to it. All arithmetic is on naturals, so no rounding enters.
-/

namespace MetricWatch.Decimal

/-- The decimal `digits · 10 ^ exponent`. -/
structure Scaled where
  digits : Nat
  exponent : Int
  deriving DecidableEq

/-- The absolute value of a finite double, `significand · 2 ^ exponent`. Below a power of two the
neighbours lie closer together than above it. -/
structure Magnitude where
  significand : Nat
  exponent : Int
  narrowBelow : Bool

/-- The absolute value of a finite double, read off its bits. -/
def Magnitude.ofFloat (x : Float) : Magnitude :=
  let field : Nat := x.toBits.toNat / Nat.pow 2 52 % Nat.pow 2 11
  let fraction : Nat := x.toBits.toNat % Nat.pow 2 52
  if field = 0 then ⟨fraction, -1074, false⟩
  else ⟨Nat.pow 2 52 + fraction, (field : Int) - 1075, fraction = 0 && 1 < field⟩

/-- Compares `a · 10 ^ i` with `b · 2 ^ j`. -/
def compareScaled (a : Nat) (i : Int) (b : Nat) (j : Int) : Ordering :=
  compare (a * Nat.pow 10 i.toNat * Nat.pow 2 (-j).toNat)
    (b * Nat.pow 2 j.toNat * Nat.pow 10 (-i).toNat)

/-- Whether a decimal lies among the reals that round to a double: from halfway to the neighbour
below to halfway to the neighbour above, with both ends when the significand is even. -/
def Magnitude.readsBack (x : Magnitude) (d : Scaled) : Bool :=
  let low := 4 * x.significand - (if x.narrowBelow then 1 else 2)
  let high := 4 * x.significand + 2
  let ends := x.significand % 2 = 0
  let atLow := compareScaled d.digits d.exponent low (x.exponent - 2)
  let atHigh := compareScaled d.digits d.exponent high (x.exponent - 2)
  (atLow = .gt || (ends && atLow = .eq)) && (atHigh = .lt || (ends && atHigh = .eq))

/-- The least power of ten above a positive magnitude. The binary logarithm times 0.30103 misses it
by less than two. -/
def Magnitude.scale (x : Magnitude) : Int :=
  let estimate := ((x.significand.log2 : Int) + x.exponent) * 30103 / 100000
  let exceeds (k : Int) : Bool := compareScaled 1 k x.significand x.exponent = .gt
  if exceeds (estimate - 1) then estimate - 1
  else if exceeds estimate then estimate
  else if exceeds (estimate + 1) then estimate + 1
  else estimate + 2

/-- The largest multiple of `10 ^ step` that is not above a magnitude, counted in steps. -/
def Magnitude.stepsBelow (x : Magnitude) (step : Int) : Nat :=
  (x.significand * Nat.pow 2 x.exponent.toNat * Nat.pow 10 (-step).toNat) /
    (Nat.pow 2 (-x.exponent).toNat * Nat.pow 10 step.toNat)

/-- The decimal on the grid of `10 ^ step` that reads back to a magnitude, if there is one. Of two
the nearer is taken, and the even one when they are equally near. -/
def Magnitude.onGrid? (x : Magnitude) (step : Int) : Option Scaled :=
  let below := x.stepsBelow step
  match x.readsBack ⟨below, step⟩, x.readsBack ⟨below + 1, step⟩ with
  | false, false => none
  | true, false => some ⟨below, step⟩
  | false, true => some ⟨below + 1, step⟩
  | true, true =>
    match compareScaled (2 * below + 1) step (2 * x.significand) x.exponent with
    | .gt => some ⟨below, step⟩
    | .lt => some ⟨below + 1, step⟩
    | .eq => some ⟨if below % 2 = 0 then below else below + 1, step⟩

/-- A magnitude as a decimal, digit for digit. -/
def Magnitude.exact (x : Magnitude) : Scaled :=
  if 0 ≤ x.exponent then ⟨x.significand * Nat.pow 2 x.exponent.toNat, 0⟩
  else ⟨x.significand * Nat.pow 5 (-x.exponent).toNat, x.exponent⟩

/-- The decimal with the fewest digits that reads back to a positive magnitude. Grids are tried
from the coarsest on; one of at most seventeen digits always serves. -/
def Magnitude.shortest (x : Magnitude) : Scaled :=
  let top := x.scale
  ((List.range 17).findSome? fun (n : Nat) => x.onGrid? (top - (n + 1 : Nat))).getD x.exact

end MetricWatch.Decimal
