import MetricWatch.Decimal.Shortest

/-!
How the digits of a double are laid out: with a decimal point alone where the number is of moderate
size, and with an exponent elsewhere.
-/

namespace MetricWatch.Decimal

/-- Numbers whose leading digit stands for `10 ^ e` are written without an exponent when
`plainFrom ≤ e < plainBelow`. -/
structure Layout where
  plainFrom : Int
  plainBelow : Int

/-- `count` zeros. -/
def zeros (count : Nat) : List Char := List.replicate count '0'

/-- The decimal digits of a number. -/
def digitChars (n : Nat) : List Char := Nat.toDigits 10 n

/-- Digits without the zeros at their end. -/
def dropTrailingZeros (digits : List Char) : List Char :=
  (digits.reverse.dropWhile (· = '0')).reverse

/-- The number `0.digits · 10 ^ point` without an exponent. It always has a fraction. -/
def plainText (digits : List Char) (point : Int) : List Char :=
  if point ≤ 0 then '0' :: '.' :: (zeros (-point).toNat ++ digits)
  else if digits.length ≤ point.toNat then
    digits ++ zeros (point.toNat - digits.length) ++ ['.', '0']
  else digits.take point.toNat ++ '.' :: digits.drop point.toNat

/-- The number `0.digits · 10 ^ point` with an exponent, whose sign is always written. -/
def exponentText (digits : List Char) (point : Int) : List Char :=
  let exponent := point - 1
  let fraction := if digits.length ≤ 1 then [] else '.' :: digits.drop 1
  let sign := if exponent < 0 then '-' else '+'
  digits.take 1 ++ fraction ++ 'e' :: sign :: digitChars exponent.natAbs

/-- A positive decimal in a layout. -/
def Layout.scaled (layout : Layout) (d : Scaled) : List Char :=
  let all := digitChars d.digits
  let point := (all.length : Int) + d.exponent
  let digits := dropTrailingZeros all
  if layout.plainFrom ≤ point - 1 && point - 1 < layout.plainBelow then plainText digits point
  else exponentText digits point

/-- A finite double in a layout. Zero keeps its sign. -/
def Layout.float (layout : Layout) (x : Float) : List Char :=
  let magnitude := Magnitude.ofFloat x
  let unsigned :=
    if magnitude.significand = 0 then ['0', '.', '0'] else layout.scaled magnitude.shortest
  if x.toBits.toNat / Nat.pow 2 63 = 1 then '-' :: unsigned else unsigned

end MetricWatch.Decimal
