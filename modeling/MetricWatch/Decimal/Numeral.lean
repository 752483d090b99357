/-!
Decimal numerals as they are written, and the double nearest to each. A numeral keeps its digits
apart from their meaning, so that different readers can give it a value.
-/

namespace MetricWatch.Decimal

/-- The part of a numeral after its exponent mark. -/
structure Exponent where
  negative : Bool
  digits : List Nat
  deriving DecidableEq, Repr

/-- A decimal numeral: a sign, the digits before and after the point, and an exponent. -/
structure Numeral where
  negative : Bool
  whole : List Nat
  fraction : List Nat
  exponent : Option Exponent
  deriving DecidableEq, Repr

/-- The value of a decimal digit. -/
def digit? (c : Char) : Option Nat :=
  if '0' ≤ c && c ≤ '9' then some (c.toNat - '0'.toNat) else none

/-- The number that decimal digits stand for. -/
def ofDigits (digits : List Nat) : Nat := digits.foldl (fun n d => 10 * n + d) 0

/-- An exponent's value. -/
def Exponent.value (e : Exponent) : Int :=
  if e.negative then -(ofDigits e.digits : Int) else ofDigits e.digits

/-- Positive infinity. -/
def infinity : Float := Float.ofBits 0x7FF0000000000000

/-- The double that is no number. -/
def notANumber : Float := Float.ofBits 0x7FF8000000000000

/-- A double with the sign that a text gave it. -/
def signed (negative : Bool) (x : Float) : Float := if negative then -x else x

/-- The double nearest to `digits · 10 ^ exponent`. Past the doubles' range on either side the
answer is settled by the number of digits alone. -/
def nearest (digits : Nat) (exponent : Int) : Float :=
  let leading := (Nat.toDigits 10 digits).length + exponent
  if digits = 0 ∨ leading < -330 then 0
  else if 330 < leading then infinity
  else Float.ofScientific digits (exponent < 0) exponent.natAbs

/-- The double nearest to a numeral, ties to the even significand. -/
def Numeral.nearest (n : Numeral) : Float :=
  let exponent := (n.exponent.map Exponent.value).getD 0 - n.fraction.length
  signed n.negative (Decimal.nearest (ofDigits (n.whole ++ n.fraction)) exponent)

/-- The digits at the head of a text, and what follows them. -/
def spanDigits : List Char → List Nat × List Char
  | [] => ([], [])
  | c :: rest =>
    match digit? c with
    | some d => ((spanDigits rest).1.cons d, (spanDigits rest).2)
    | none => ([], c :: rest)

/-- A sign at the head of a text: whether it is a minus, and what follows. -/
def spanSign : List Char → Bool × List Char
  | c :: rest =>
    if c = '-' then (true, rest) else if c = '+' then (false, rest) else (false, c :: rest)
  | [] => (false, [])

/-- An optional exponent that takes up a whole text. -/
def optionalExponent? (cs : List Char) : Option (Option Exponent) :=
  match cs with
  | [] => some none
  | c :: rest =>
    if c = 'e' || c = 'E' then
      let (negative, rest) := spanSign rest
      let (digits, rest) := spanDigits rest
      if digits.isEmpty || !rest.isEmpty then none else some (some ⟨negative, digits⟩)
    else none

/-- A numeral that takes up a whole text: digits on at least one side of an optional point, and an
optional exponent. -/
def numeral? (negative : Bool) (cs : List Char) : Option Numeral :=
  let (whole, rest) := spanDigits cs
  let (fraction, rest) :=
    match rest with
    | [] => ([], [])
    | c :: after => if c = '.' then spanDigits after else ([], c :: after)
  if whole.isEmpty && fraction.isEmpty then none
  else (optionalExponent? rest).map fun exponent => ⟨negative, whole, fraction, exponent⟩

/-- The double that a whole text names: a numeral, or in letters of any case `inf`, `infinity` or
`nan`, each after an optional sign. -/
def float? (cs : List Char) : Option Float :=
  let (negative, rest) := spanSign cs
  let word := rest.map Char.toLower
  if word = "inf".toList || word = "infinity".toList then some (signed negative infinity)
  else if word = "nan".toList then some notANumber
  else (numeral? negative rest).map Numeral.nearest

end MetricWatch.Decimal
