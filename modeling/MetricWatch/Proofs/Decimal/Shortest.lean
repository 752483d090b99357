import Mathlib.Algebra.Order.Floor.Semifield
import MetricWatch.Decimal.Shortest
import MetricWatch.Proofs.Decimal.Rounding

/-!
What the digits of a double say: they are a decimal which is rounded to that double, and there are at most
seventeen of them.
-/

namespace MetricWatch.Decimal

/-- The number that a decimal is. -/
def Scaled.worth (d : Scaled) : ℚ := d.digits * 10 ^ d.exponent

/-- The number that a double is, up to its sign. -/
def Magnitude.worth (x : Magnitude) : ℚ := x.significand * 2 ^ x.exponent

theorem ten_zpow_pos (e : ℤ) : (0 : ℚ) < 10 ^ e := zpow_pos (by norm_num) e

theorem zpow_eq_toNat_div {b : ℚ} (hb : b ≠ 0) (e : ℤ) : b ^ e = b ^ e.toNat / b ^ (-e).toNat := by
  rw [eq_div_iff (pow_ne_zero _ hb), ← zpow_natCast, ← zpow_natCast, ← zpow_add₀ hb]
  congr 1
  omega

/-- Comparing without fractions is comparing the numbers. -/
theorem compareScaled_eq (a : ℕ) (i : ℤ) (b : ℕ) (j : ℤ) :
    compareScaled a i b j = cmp ((a : ℚ) * 10 ^ i) (b * 2 ^ j) := by
  have hdenominators : (0 : ℚ) < 10 ^ (-i).toNat * 2 ^ (-j).toNat := by positivity
  rw [← cmp_mul_pos_right hdenominators, zpow_eq_toNat_div (by norm_num) i,
    zpow_eq_toNat_div two_ne_zero j]
  have hleft : (a * (10 ^ i.toNat / 10 ^ (-i).toNat) * (10 ^ (-i).toNat * 2 ^ (-j).toNat) : ℚ) =
      (a * Nat.pow 10 i.toNat * Nat.pow 2 (-j).toNat : ℕ) := by
    push_cast [Nat.pow_eq]
    field_simp
  have hright : (b * (2 ^ j.toNat / 2 ^ (-j).toNat) * (10 ^ (-i).toNat * 2 ^ (-j).toNat) : ℚ) =
      (b * Nat.pow 2 j.toNat * Nat.pow 10 (-i).toNat : ℕ) := by
    push_cast [Nat.pow_eq]
    field_simp
  rw [hleft, hright, Nat.strictMono_cast.cmp_map_eq, cmp_eq_compare]
  rfl

theorem compareScaled_eq_lt {a b : ℕ} {i j : ℤ} :
    compareScaled a i b j = .lt ↔ (a : ℚ) * 10 ^ i < b * 2 ^ j := by
  rw [compareScaled_eq, cmp_eq_lt_iff]

theorem compareScaled_eq_eq {a b : ℕ} {i j : ℤ} :
    compareScaled a i b j = .eq ↔ (a : ℚ) * 10 ^ i = b * 2 ^ j := by
  rw [compareScaled_eq, cmp_eq_eq_iff]

theorem compareScaled_eq_gt {a b : ℕ} {i j : ℤ} :
    compareScaled a i b j = .gt ↔ (b : ℚ) * 2 ^ j < a * 10 ^ i := by
  rw [compareScaled_eq, cmp_eq_gt_iff]

namespace Magnitude

/-- Whether a magnitude is that of a double which is not zero. -/
structure Positive (x : Magnitude) : Prop where
  canonical : Canonical x.significand x.exponent
  inRange : x.exponent ≤ 971
  pos : 0 < x.significand
  narrow : x.narrowBelow = true ↔ x.significand = 2 ^ 52 ∧ -1074 < x.exponent

variable {x : Magnitude}

/-- Half the distance to the double below. -/
def halfGap (x : Magnitude) : ℚ := halfGapBelow x.significand x.exponent

/-- Half the distance to the double above. -/
def halfUnit (x : Magnitude) : ℚ := 2 ^ x.exponent / 2

theorem halfGap_pos (x : Magnitude) : 0 < x.halfGap := by
  have := two_zpow_pos x.exponent
  rw [halfGap, halfGapBelow]
  split <;> linarith

theorem halfGap_le (x : Magnitude) : x.halfGap ≤ x.halfUnit := halfGapBelow_le _ _

theorem halfGap_lt_worth (h : x.Positive) : x.halfGap < x.worth := by
  have hunit := two_zpow_pos x.exponent
  have hone : (1 : ℚ) ≤ x.significand := by exact_mod_cast h.pos
  have hle := mul_le_mul_of_nonneg_right hone hunit.le
  have hgap := halfGap_le x
  rw [halfUnit] at hgap
  rw [worth]
  linarith

theorem readsBack_iff (h : x.Positive) (d : Scaled) : x.readsBack d = true ↔
    (x.worth - x.halfGap < d.worth ∨ x.significand % 2 = 0 ∧ d.worth = x.worth - x.halfGap) ∧
    (d.worth < x.worth + x.halfUnit ∨ x.significand % 2 = 0 ∧ d.worth = x.worth + x.halfUnit) := by
  have hpos := h.pos
  have hquarter : (2 : ℚ) ^ (x.exponent - 2) = 2 ^ x.exponent / 4 := by
    rw [zpow_sub₀ two_ne_zero]
    norm_num
  have hlow : ((4 * x.significand - (if x.narrowBelow then 1 else 2) : ℕ) : ℚ) * 2 ^ (x.exponent - 2) =
      x.worth - x.halfGap := by
    rw [hquarter, worth, halfGap, halfGapBelow]
    by_cases hnarrow : x.narrowBelow = true
    · rw [if_pos hnarrow, if_pos (h.narrow.1 hnarrow), Nat.cast_sub (by omega)]
      push_cast
      ring
    · rw [if_neg hnarrow, if_neg (fun hn => hnarrow (h.narrow.2 hn)), Nat.cast_sub (by omega)]
      push_cast
      ring
  have hhigh : ((4 * x.significand + 2 : ℕ) : ℚ) * 2 ^ (x.exponent - 2) = x.worth + x.halfUnit := by
    rw [hquarter, worth, halfUnit]
    push_cast
    ring
  simp only [readsBack, Bool.and_eq_true, Bool.or_eq_true, decide_eq_true_eq, compareScaled_eq_lt,
    compareScaled_eq_eq, compareScaled_eq_gt, hlow, hhigh]
  rfl

theorem rounded_of_readsBack (h : x.Positive) {d : Scaled} (hd : x.readsBack d = true) :
    rounded d.worth = x.worth := by
  rw [readsBack_iff h] at hd
  obtain ⟨hlow, hhigh⟩ := hd
  apply rounded_eq_of_between h.canonical h.pos
  · rcases hlow with hlow | ⟨-, hlow⟩
    · exact hlow.le
    · exact hlow.ge
  · rcases hhigh with hhigh | ⟨-, hhigh⟩
    · exact hhigh.le
    · exact hhigh.le
  · rintro (heq | heq)
    · rcases hlow with hlow | ⟨heven, -⟩
      · exact absurd heq hlow.ne'
      · exact heven
    · rcases hhigh with hhigh | ⟨heven, -⟩
      · exact absurd heq hhigh.ne
      · exact heven

/-! ## Grids -/

theorem stepsBelow_spec (x : Magnitude) (step : ℤ) :
    x.stepsBelow step * 10 ^ step ≤ x.worth ∧ x.worth < (x.stepsBelow step + 1) * 10 ^ step := by
  have hstep := ten_zpow_pos step
  have hdenominator : 0 < Nat.pow 2 (-x.exponent).toNat * Nat.pow 10 step.toNat :=
    Nat.mul_pos (Nat.pow_pos two_pos) (Nat.pow_pos (by decide))
  have hsteps : x.worth / 10 ^ step =
      (x.significand * Nat.pow 2 x.exponent.toNat * Nat.pow 10 (-step).toNat : ℕ) /
        (Nat.pow 2 (-x.exponent).toNat * Nat.pow 10 step.toNat : ℕ) := by
    rw [worth, zpow_eq_toNat_div two_ne_zero, zpow_eq_toNat_div (by norm_num : (10 : ℚ) ≠ 0) step]
    push_cast [Nat.pow_eq]
    field_simp
  have hfloor : x.stepsBelow step = ⌊x.worth / 10 ^ step⌋₊ := by
    rw [hsteps, Nat.floor_div_eq_div]
    rfl
  have hnonneg : 0 ≤ x.worth / 10 ^ step := by
    rw [hsteps]
    positivity
  rw [hfloor, ← le_div_iff₀ hstep, ← div_lt_iff₀ hstep]
  exact ⟨Nat.floor_le hnonneg, Nat.lt_floor_add_one _⟩

theorem onGrid?_eq_some {step : ℤ} {d : Scaled} (h : x.onGrid? step = some d) :
    x.readsBack d = true ∧ d.exponent = step ∧ d.digits ≤ x.stepsBelow step + 1 := by
  unfold onGrid? at h
  dsimp only at h
  split at h
  · cases h
  · obtain rfl := Option.some.inj h
    exact ⟨‹_›, rfl, Nat.le_succ _⟩
  · obtain rfl := Option.some.inj h
    exact ⟨‹_›, rfl, le_rfl⟩
  · rename_i hbelow habove
    split at h
    · obtain rfl := Option.some.inj h
      exact ⟨hbelow, rfl, Nat.le_succ _⟩
    · obtain rfl := Option.some.inj h
      exact ⟨habove, rfl, le_rfl⟩
    · obtain rfl := Option.some.inj h
      split
      · exact ⟨hbelow, rfl, Nat.le_succ _⟩
      · exact ⟨habove, rfl, le_rfl⟩

/-- A grid that is finer than the doubles has a point near enough on one side or the other. -/
theorem isSome_onGrid? (h : x.Positive) {step : ℤ} (hfine : 10 ^ step < x.halfGap + x.halfUnit) :
    (x.onGrid? step).isSome = true := by
  obtain ⟨hbelow, habove⟩ := stepsBelow_spec x step
  have hsome : x.readsBack ⟨x.stepsBelow step, step⟩ = true ∨
      x.readsBack ⟨x.stepsBelow step + 1, step⟩ = true := by
    rw [readsBack_iff h, readsBack_iff h]
    have hunit : 0 < x.halfUnit := half_pos (two_zpow_pos _)
    have hgap := halfGap_pos x
    simp only [Scaled.worth]
    push_cast
    by_cases hnear : x.worth - x.halfGap < x.stepsBelow step * 10 ^ step
    · exact .inl ⟨.inl hnear, .inl (by linarith)⟩
    · exact .inr ⟨.inl (by linarith), .inl (by linarith)⟩
  unfold onGrid?
  dsimp only
  split
  · rename_i hb ha
    rw [hb, ha] at hsome
    simp at hsome
  · rfl
  · rfl
  · split <;> rfl

/-! ## The size of a number -/

/-- The binary exponent of the leading digit. -/
def log (x : Magnitude) : ℤ := x.significand.log2 + x.exponent

theorem two_zpow_log_le (h : x.Positive) : 2 ^ x.log ≤ x.worth ∧ x.worth < 2 ^ (x.log + 1) := by
  have hunit := two_zpow_pos x.exponent
  have hlow : (2 ^ x.significand.log2 : ℚ) ≤ x.significand := by
    exact_mod_cast Nat.log2_self_le h.pos.ne'
  have hhigh : (x.significand : ℚ) < 2 ^ (x.significand.log2 + 1) := by
    exact_mod_cast Nat.lt_log2_self
  have hlog : x.log = x.exponent + x.significand.log2 := add_comm _ _
  have hnext : x.log + 1 = x.exponent + (x.significand.log2 + 1 : ℕ) := by
    rw [hlog]
    push_cast
    ring
  rw [hnext, hlog, two_zpow_add, two_zpow_add]
  exact ⟨mul_le_mul_of_nonneg_right hlow hunit.le, mul_lt_mul_of_pos_right hhigh hunit⟩

/-- The decimal exponent that is guessed from a binary one. -/
def guess (log : ℤ) : ℤ := log * 30103 / 100000

theorem guess_close : ∀ i < 2098,
    compareScaled 1 (guess ((i : ℕ) - 1074) - 2) 1 (i - 1074) ≠ .gt ∧
      compareScaled 1 (guess (i - 1074) + 2) 1 (i - 1074 + 1) ≠ .lt := by
  decide +kernel

theorem ten_zpow_guess_le (h : x.Positive) :
    10 ^ (guess x.log - 2) ≤ x.worth ∧ x.worth < 10 ^ (guess x.log + 2) := by
  obtain ⟨hbits, he, -⟩ := h.canonical
  have htop := h.inRange
  have hlog := (Nat.log2_lt h.pos.ne').2 hbits
  obtain ⟨i, hi⟩ : ∃ i : ℕ, x.log = i - 1074 := ⟨(x.log + 1074).toNat, by rw [log]; omega⟩
  obtain ⟨hbelow, habove⟩ := guess_close i (by rw [log] at hi; omega)
  rw [← hi, Ne, compareScaled_eq_gt, not_lt, Nat.cast_one, one_mul, one_mul] at hbelow
  rw [← hi, Ne, compareScaled_eq_lt, not_lt, Nat.cast_one, one_mul, one_mul] at habove
  obtain ⟨hlow, hhigh⟩ := two_zpow_log_le h
  exact ⟨hbelow.trans hlow, hhigh.trans_le habove⟩

/-- The scale of a number is the power of ten that bounds it. -/
theorem scale_spec (h : x.Positive) : 10 ^ (x.scale - 1) ≤ x.worth ∧ x.worth < 10 ^ x.scale := by
  obtain ⟨hlow, hhigh⟩ := ten_zpow_guess_le h
  have hexceeds : ∀ k, compareScaled 1 k x.significand x.exponent = .gt ↔ x.worth < 10 ^ k := by
    intro k
    rw [compareScaled_eq_gt, Nat.cast_one, one_mul, worth]
  have hguess : ((x.significand.log2 : ℤ) + x.exponent) * 30103 / 100000 = guess x.log := rfl
  simp only [scale, hguess, decide_eq_true_eq, hexceeds]
  generalize guess x.log = k at *
  split
  · rename_i h1
    rw [show k - 1 - 1 = k - 2 by ring]
    exact ⟨hlow, h1⟩
  · rename_i h1
    split
    · rename_i h2
      exact ⟨not_lt.1 h1, h2⟩
    · rename_i h2
      split
      · rename_i h3
        rw [add_sub_cancel_right]
        exact ⟨not_lt.1 h2, h3⟩
      · rename_i h3
        rw [show k + 2 - 1 = k + 1 by ring]
        exact ⟨not_lt.1 h3, hhigh⟩

/-- Seventeen digits always tell a double from its neighbours. -/
theorem ten_zpow_scale_lt (h : x.Positive) : 10 ^ (x.scale - 17) < x.halfGap + x.halfUnit := by
  have hunit := two_zpow_pos x.exponent
  have hsplit : (10 : ℚ) ^ (x.scale - 1) = 10 ^ 16 * 10 ^ (x.scale - 17) := by
    rw [← zpow_natCast, ← zpow_add₀ (by norm_num)]
    congr 1
    push_cast
    ring
  obtain ⟨hscale, -⟩ := scale_spec h
  rw [hsplit, worth] at hscale
  have hbits : (x.significand : ℚ) < 2 ^ 53 := by exact_mod_cast h.canonical.1
  rw [halfGap, halfGapBelow, halfUnit]
  split
  · rename_i hnarrow
    rw [hnarrow.1] at hscale
    push_cast at hscale
    linarith
  · have := mul_lt_mul_of_pos_right hbits hunit
    linarith

theorem shortest_spec (h : x.Positive) :
    x.readsBack x.shortest = true ∧ 0 < x.shortest.digits ∧ x.shortest.digits ≤ 10 ^ 17 := by
  have hfound : ∃ d, ((List.range 17).findSome? fun (n : ℕ) => x.onGrid? (x.scale - (n + 1 : ℕ))) =
      some d := by
    rw [← Option.isSome_iff_exists, List.findSome?_isSome_iff]
    exact ⟨16, by decide, isSome_onGrid? h (ten_zpow_scale_lt h)⟩
  obtain ⟨d, hfound⟩ := hfound
  have hd : x.shortest = d := by
    rw [shortest, hfound, Option.getD_some]
  obtain ⟨n, hn, hgrid⟩ := List.exists_of_findSome?_eq_some hfound
  rw [List.mem_range] at hn
  obtain ⟨hreads, -, hdigits⟩ := onGrid?_eq_some hgrid
  rw [hd]
  refine ⟨hreads, ?_, ?_⟩
  · refine Nat.pos_of_ne_zero fun hzero => ?_
    have hworth : d.worth = 0 := by rw [Scaled.worth, hzero, Nat.cast_zero, zero_mul]
    have hgap := halfGap_lt_worth h
    rw [readsBack_iff h, hworth] at hreads
    rcases hreads.1 with hlt | ⟨-, heq⟩ <;> linarith
  · have hsteps : x.stepsBelow (x.scale - (n + 1 : ℕ)) < 10 ^ (n + 1) := by
      have hstep := ten_zpow_pos (x.scale - (n + 1 : ℕ))
      have hlt := (stepsBelow_spec x (x.scale - (n + 1 : ℕ))).1.trans_lt (scale_spec h).2
      have hsplit : (10 : ℚ) ^ x.scale = 10 ^ (n + 1) * 10 ^ (x.scale - (n + 1 : ℕ)) := by
        rw [← zpow_natCast, ← zpow_add₀ (by norm_num), add_sub_cancel]
      rw [hsplit] at hlt
      exact_mod_cast lt_of_mul_lt_mul_right hlt hstep.le
    calc d.digits ≤ 10 ^ (n + 1) := hdigits.trans hsteps
      _ ≤ 10 ^ 17 := Nat.pow_le_pow_right (by decide) hn

end Magnitude

end MetricWatch.Decimal
