import MetricWatch.Proofs.Decimal.Nearest
import MetricWatch.Proofs.Json.Doubles

/-!
What the reader makes of a number. It keeps as many digits as fit a word, and what it leaves out hardly
counts. Then it rounds the digits, the power of ten and what comes of both.
-/

namespace MetricWatch

/-- The number that a numeral stands for, its sign aside. -/
def Decimal.Numeral.worth (n : Decimal.Numeral) : ℚ := n.digits * 10 ^ n.places

namespace Json

open Decimal

namespace Number

/-! ## The digits that are kept -/

/-- Whether a number begins with the given digits, of which the last counts `10 ^ j`. -/
def BeginsWith (h : ℕ) (j : ℤ) (x : ℚ) : Prop := h * 10 ^ j ≤ x ∧ x < (h + 1) * 10 ^ j

theorem BeginsWith.near {h : ℕ} {j : ℤ} {x y : ℚ} (hx : BeginsWith h j x) (hy : BeginsWith h j y)
    (hh : 10 ^ 18 ≤ h) : Near (1 / 10 ^ 18) x y := by
  have hten := ten_zpow_pos j
  have hmost : (10 ^ 18 : ℚ) ≤ h := by exact_mod_cast hh
  have hunit : 10 ^ 18 * (10 : ℚ) ^ j ≤ h * 10 ^ j := mul_le_mul_of_nonneg_right hmost hten.le
  obtain ⟨hxlow, hxhigh⟩ := hx
  obtain ⟨hylow, hyhigh⟩ := hy
  rw [Near, abs_le]
  constructor <;> linarith

/-- The power of ten that the digits count which are kept of a numeral. -/
def keptPlaces (n : Numeral) : ℤ := (significand n).2 + (n.exponent.map Exponent.value).getD 0

section Scale

variable {digits : ℕ} (hdigits : 0 < digits) (hsize : digits < UInt64.size)

include hdigits hsize

end Scale

/-- Whether the reader takes in what a numeral states of its exponent. -/
def WithinLimit (n : Numeral) : Prop := ∀ e ∈ n.exponent, ofDigits e.digits ≤ exponentLimit

instance (n : Numeral) : Decidable (WithinLimit n) :=
  inferInstanceAs (Decidable (∀ e ∈ n.exponent, ofDigits e.digits ≤ exponentLimit))

/-- What the reader makes of a numeral that is not too large for it, its sign aside. -/
def taken (n : Numeral) : ℚ :=
  if WithinLimit n ∧ -616 ≤ keptPlaces n then rounded (unrounded (significand n).1 (keptPlaces n)) else 0

end Number

end Json

end MetricWatch
