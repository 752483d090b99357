import MetricWatch.Proofs.Json.Numbers

/-!
A numeral as a number and as a text. The reader of numbers rounds on its way, while a text names the double
that is nearest to it.
-/

namespace MetricWatch.Json.Number

open Decimal

section Kept

variable {n : Numeral} (h : ∀ d ∈ n.whole ++ n.fraction, d < 10)

include h

end Kept

/-! ## Side by side -/

end MetricWatch.Json.Number
