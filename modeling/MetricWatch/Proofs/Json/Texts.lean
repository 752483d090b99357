import MetricWatch.Json.Printer
import MetricWatch.Proofs.Json.Numerals
import MetricWatch.Text.Blank

/-!
Numbers as texts. A number of a JSON text names a double as a text too, and both are the same numeral.
-/

namespace MetricWatch

namespace Decimal

end Decimal

namespace Json

/-! ## Two readers of numerals -/

section Whole

variable {cut : Fault} {cs : List Char}

end Whole

/-! ## The characters of numbers -/

/-- The characters that numbers are made of. -/
def numberChars : List Char :=
  ['0', '1', '2', '3', '4', '5', '6', '7', '8', '9', '-', '+', '.', 'e', 'E']

end Json

end MetricWatch
