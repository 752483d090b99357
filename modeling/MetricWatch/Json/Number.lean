import MetricWatch.Decimal.Layout
import MetricWatch.Decimal.Numeral

/-!
The numbers of JSON texts. A whole number of at most 64 bits is kept as it is; every other number
becomes a double.

The double is not always the nearest one. As many digits as fit 64 bits are taken as a whole
number, which is then scaled by a power of ten, and both steps round.
-/

namespace MetricWatch.Json

open Decimal (Numeral)

/-- A number of a JSON text. -/
inductive Number where
  | natural (n : UInt64)
  | negative (n : Int64)
  | double (x : Float)
  deriving DecidableEq

/-- Doubles are written without an exponent from `0.00001` on and below `10 ^ 16`. -/
def layout : Decimal.Layout where
  plainFrom := -5
  plainBelow := 16

/-- A double as it is written: what is no finite number is `null`. -/
def doubleChars (x : Float) : List Char :=
  if x.isFinite then layout.float x else ['n', 'u', 'l', 'l']

/-- A whole number as it is written. -/
def naturalChars (n : Nat) : List Char := Decimal.digitChars n

namespace Number

/-- A number as it is written. -/
def chars : Number → List Char
  | natural n => naturalChars n.toNat
  | negative n => '-' :: naturalChars n.toInt.natAbs
  | double x => doubleChars x

/-- A number as a double. -/
def toFloat : Number → Float
  | natural n => n.toFloat
  | negative n => Decimal.signed true (UInt64.ofNat n.toInt.natAbs).toFloat
  | double x => x

/-- Takes digits into a number for as long as it stays below `2 ^ 64`. The digits that are left
begin with the first that does not fit. -/
def gather (n : Nat) : List Nat → Nat × List Nat
  | [] => (n, [])
  | d :: rest => if 10 * n + d < UInt64.size then gather (10 * n + d) rest else (n, d :: rest)

/-- The digits that are used of a numeral without its exponent, and the power of ten they count.
Digits before the point that do not fit raise the power; after the point they are dropped. -/
def significand (n : Numeral) : Nat × Int :=
  let (high, left) := gather 0 n.whole
  let (all, dropped) := gather high n.fraction
  (all, (left.length : Int) - ((n.fraction.length - dropped.length : Nat) : Int))

/-- `x · 10 ^ exponent`, with one rounding for every 308 places, or `none` if that is too large. -/
def scale : Nat → Float → Int → Option Float
  | 0, x, _ => some x
  | steps + 1, x, exponent =>
    if exponent.natAbs ≤ 308 then
      let power := Float.ofScientific 1 false exponent.natAbs
      if 0 ≤ exponent then
        if (x * power).isFinite then some (x * power) else none
      else some (x / power)
    else if x == 0 then some x
    else if 0 ≤ exponent then none
    else scale steps (x / Float.ofScientific 1 false 308) (exponent + 308)

/-- The largest exponent that a numeral may state. -/
def exponentLimit : Nat := 0x7FFFFFFF

/-- An exponent between the two limits. -/
def clampExponent (e : Int) : Int := max (-(exponentLimit + 1)) (min e exponentLimit)

/-- The double for a numeral with a fraction, an exponent or too many digits, or `none` if it is
too large. An exponent beyond the limit gives zero or too large a number. -/
def double? (n : Numeral) : Option Float :=
  let (digits, places) := significand n
  let x := (UInt64.ofNat digits).toFloat
  let scaled (exponent : Int) : Option Float :=
    (scale (exponent.natAbs / 308 + 1) x exponent).map (Decimal.signed n.negative)
  match n.exponent with
  | none => scaled places
  | some e =>
    if exponentLimit < Decimal.ofDigits e.digits then
      if digits ≠ 0 && !e.negative then none else some (Decimal.signed n.negative 0)
    else scaled (clampExponent (places + e.value))

/-- The number that a numeral stands for, or `none` if it is too large. -/
def ofNumeral? (n : Numeral) : Option Number :=
  let digits := Decimal.ofDigits n.whole
  if !n.fraction.isEmpty || n.exponent.isSome then (double? n).map double
  else if !n.negative && digits < UInt64.size then some (natural (UInt64.ofNat digits))
  else if n.negative && 0 < digits && digits ≤ UInt64.size / 2 then
    some (negative (Int64.ofInt (-digits)))
  else (double? n).map double

end Number

end MetricWatch.Json
