import MetricWatch.Proofs.Decimal.Doubles
import MetricWatch.Proofs.Decimal.Rereading

/-!
The double nearest to a decimal. However many digits it has and whatever its power of ten, a decimal is
rounded once.
-/

namespace MetricWatch.Decimal

/-- A double rounds to itself. -/
theorem Holds.rounded_eq {x : Float} {q : ℚ} (h : Holds x q) : rounded q = q := by
  obtain ⟨m, e, hparts, rfl⟩ := h.parts
  exact rounded_natCast_mul hparts.canonical.1 hparts.canonical.2.1

/-! ## Signs -/

/-- Whether a double is a finite one of the given sign and size. -/
structure Amounts (x : Float) (negative : Bool) (q : ℚ) : Prop where
  isFinite : x.isFinite = true
  sign : isNegative x = negative
  worth : (Magnitude.ofFloat x).worth = q

theorem Amounts.lt {x : Float} {negative : Bool} {q : ℚ} (h : Amounts x negative q) : q < 2 ^ 1024 := by
  obtain ⟨hparts, -⟩ := parts_of_isFinite h.isFinite
  have hbits : ((Magnitude.ofFloat x).significand : ℚ) < 2 ^ 53 := by exact_mod_cast hparts.canonical.1
  have hunit : (2 : ℚ) ^ (Magnitude.ofFloat x).exponent ≤ 2 ^ (971 : ℤ) :=
    zpow_le_zpow_right₀ one_le_two hparts.inRange
  rw [← h.worth, Magnitude.worth, limit_eq]
  exact mul_lt_mul hbits hunit (two_zpow_pos _) (by positivity)

end MetricWatch.Decimal
