import MetricWatch.Proofs.Decimal.Shortest

/-!
How far off a decimal is read whose digits and whose power of ten are each rounded before they are put
together.
-/

namespace MetricWatch.Decimal

/-- Whether a number misses a positive one by no more than a part of that. -/
def Near (part x a : ℚ) : Prop := |x - a| ≤ part * a

namespace Near

variable {c d x y a b : ℚ}

theorem weaken (h : Near c x a) (hle : c ≤ d) (ha : 0 < a) : Near d x a :=
  h.trans (mul_le_mul_of_nonneg_right hle ha.le)

theorem bounds (h : Near c x a) : (1 - c) * a ≤ x ∧ x ≤ (1 + c) * a := by
  obtain ⟨hlow, hhigh⟩ := abs_le.1 h
  constructor <;> linarith

theorem mul (hx : Near c x a) (hy : Near d y b) (ha : 0 < a) (hb : 0 < b) (hc : 0 ≤ c) :
    Near (c + d + c * d) (x * y) (a * b) := by
  have hsplit : x * y - a * b = (x - a) * (y - b) + (x - a) * b + a * (y - b) := by ring
  have hboth : |(x - a) * (y - b)| ≤ c * a * (d * b) := by
    rw [abs_mul]
    exact mul_le_mul hx hy (abs_nonneg _) (mul_nonneg hc ha.le)
  have hfirst : |(x - a) * b| ≤ c * a * b := by
    rw [abs_mul, abs_of_pos hb]
    exact mul_le_mul_of_nonneg_right hx hb.le
  have hsecond : |a * (y - b)| ≤ a * (d * b) := by
    rw [abs_mul, abs_of_pos ha]
    exact mul_le_mul_of_nonneg_left hy ha.le
  rw [Near, hsplit]
  have hsum := (abs_add_le ((x - a) * (y - b) + (x - a) * b) (a * (y - b))).trans
    (add_le_add_left (abs_add_le ((x - a) * (y - b)) ((x - a) * b)) _)
  linarith

/-- Dividing by a rounded number adds its error, and a little more. -/
theorem abs_div_sub_le (hy : Near d y b) (hb : 0 < b) (hd : d < 1) (ha : 0 ≤ a) {error : ℚ}
    (hx : |x - a| ≤ error) : |x / y - a / b| ≤ (error + a * d) / ((1 - d) * b) := by
  have hpos : 0 < (1 - d) * b := mul_pos (by linarith) hb
  have hy0 : 0 < y := hpos.trans_le hy.bounds.1
  have hsplit : x / y - a / b = ((x - a) + a * ((b - y) / b)) / y := by
    field_simp
    ring
  have hmiss : |(b - y) / b| ≤ d := by
    rw [abs_div, abs_of_pos hb, div_le_iff₀ hb, abs_sub_comm]
    exact hy
  have hsecond : |a * ((b - y) / b)| ≤ a * d := by
    rw [abs_mul, abs_of_nonneg ha]
    exact mul_le_mul_of_nonneg_left hmiss ha
  have hsum := (abs_add_le (x - a) (a * ((b - y) / b))).trans (add_le_add hx hsecond)
  rw [hsplit, abs_div, abs_of_pos hy0]
  exact div_le_div₀ ((abs_nonneg _).trans hsum) hsum hpos hy.bounds.1

theorem div (hx : Near c x a) (hy : Near d y b) (ha : 0 < a) (hb : 0 < b) (hd : d < 1) {part : ℚ}
    (hpart : c + d ≤ part * (1 - d)) : Near part (x / y) (a / b) := by
  refine (hy.abs_div_sub_le hb hd ha.le hx).trans ?_
  rw [div_le_iff₀ (mul_pos (by linarith) hb)]
  calc c * a + a * d = (c + d) * a := by ring
    _ ≤ part * (1 - d) * a := mul_le_mul_of_nonneg_right hpart ha.le
    _ = part * (a / b) * ((1 - d) * b) := by field_simp

end Near

/-- The part of a number by which rounding misses it. -/
def grain : ℚ := 1 / 2 ^ 53

theorem grain_pos : 0 < grain := by
  rw [grain]
  positivity

theorem grain_lt : grain < 1 / 1000 := by
  rw [grain]
  norm_num

theorem abs_rounded_sub_le_grain {q : ℚ} (hq : 0 < q) :
    |rounded q - q| ≤ grain * q + 2 ^ (-1074 : ℤ) / 2 := by
  have hleast := two_zpow_pos (-1074)
  refine (abs_rounded_sub_le q).trans ?_
  rw [grain]
  rcases le_max_iff.1 (two_zpow_place_le hq) with h | h <;> linarith

theorem near_rounded {q : ℚ} (hq : 1 ≤ q) : Near grain (rounded q) q := by
  have hleast : (2 : ℚ) ^ (-1074 : ℤ) ≤ 2 ^ (-52 : ℤ) := zpow_le_zpow_right₀ one_le_two (by decide)
  have hone : (2 : ℚ) ^ (-52 : ℤ) = 1 / 2 ^ 52 := by norm_num
  rw [hone] at hleast
  refine (abs_rounded_sub_le q).trans ?_
  rw [grain]
  rcases le_max_iff.1 (two_zpow_place_le (zero_lt_one.trans_le hq)) with h | h <;> linarith

/-- A power of ten in the reader's table. -/
def power (k : ℕ) : ℚ := rounded (10 ^ k)

theorem near_power (k : ℕ) : Near grain (power k) (10 ^ k) :=
  near_rounded (one_le_pow₀ (by norm_num))

/-- What the reader makes of a whole number and a power of ten, before it rounds for the last time. Powers
below the table's take two steps. -/
def unrounded (digits : ℕ) (places : ℤ) : ℚ :=
  if 0 ≤ places then rounded digits * power places.toNat
  else if -308 ≤ places then rounded digits / power (-places).toNat
  else rounded (rounded digits / power 308) / power (-places - 308).toNat

/-- The greatest power in the table happens to be near. -/
theorem near_power_top : Near (grain / 8) (power 308) (10 ^ 308) := by
  have hlow : compareScaled (2 ^ 56 + 1) 308 (2 ^ 56 * 5010420900022432) 971 = .gt := by decide +kernel
  have hhigh : compareScaled (2 ^ 56 - 1) 308 (2 ^ 56 * 5010420900022432) 971 = .lt := by decide +kernel
  have hsize : compareScaled 1 308 (2 ^ 53) 971 = .lt := by decide +kernel
  have hpos := two_zpow_pos 971
  obtain ⟨ten, hten⟩ : ∃ ten : ℚ, 10 ^ (308 : ℤ) = ten := ⟨_, rfl⟩
  obtain ⟨unit, hunit⟩ : ∃ unit : ℚ, 2 ^ (971 : ℤ) = unit := ⟨_, rfl⟩
  rw [compareScaled_eq_gt, hten, hunit] at hlow
  rw [compareScaled_eq_lt, hten, hunit] at hhigh hsize
  rw [hunit] at hpos
  push_cast at hlow hhigh hsize
  have hrounded : rounded ten = (5010420900022432 : ℕ) * 2 ^ (971 : ℤ) := by
    apply rounded_eq_of_between ⟨by decide, by decide, .inl (by decide)⟩ (by decide)
    · rw [halfGapBelow, if_neg (by decide), hunit, Nat.cast_ofNat]
      linarith only [hlow, hhigh, hsize, hpos]
    · rw [hunit, Nat.cast_ofNat]
      linarith only [hlow, hhigh, hsize, hpos]
    · exact fun _ => by decide
  have hpower : (10 : ℚ) ^ 308 = ten := by rw [← hten]; rfl
  rw [Near, power, hpower, hrounded, hunit, grain, Nat.cast_ofNat, abs_le]
  constructor <;> linarith only [hlow, hhigh, hsize, hpos]

section Unrounded

variable {digits : ℕ} (hdigits : 0 < digits)

include hdigits

theorem near_product (k : ℕ) : Near (10 / 3 * grain) (rounded digits * power k) (digits * 10 ^ k) := by
  have hsmall := grain_lt
  have hpos := grain_pos
  have hsquare : grain * grain < grain / 1000 := by nlinarith
  have hone : (1 : ℚ) ≤ digits := by exact_mod_cast hdigits
  exact ((near_rounded hone).mul (near_power k) (by linarith) (by positivity) hpos.le).weaken
    (by linarith) (by positivity)

theorem near_quotient (k : ℕ) : Near (10 / 3 * grain) (rounded digits / power k) (digits / 10 ^ k) := by
  have hsmall := grain_lt
  have hpos := grain_pos
  have hone : (1 : ℚ) ≤ digits := by exact_mod_cast hdigits
  exact (near_rounded hone).div (near_power k) (by linarith) (by positivity) (by linarith) (by nlinarith)

/-- The first quotient may be so small that its rounding loses more than a grain. -/
theorem abs_rounded_quotient_sub_le :
    |rounded (rounded digits / power 308) - digits / 10 ^ 308| ≤
      9 / 4 * grain * (digits / 10 ^ 308) + 2 ^ (-1074 : ℤ) / 2 := by
  have hsmall := grain_lt
  have hpos := grain_pos
  have hone : (1 : ℚ) ≤ digits := by exact_mod_cast hdigits
  have hfirst : Near (6 / 5 * grain) (rounded digits / power 308) (digits / 10 ^ 308) :=
    (near_rounded hone).div near_power_top (by linarith) (by positivity) (by linarith) (by nlinarith)
  have hq : (0 : ℚ) < digits / 10 ^ 308 := by positivity
  generalize (digits / 10 ^ 308 : ℚ) = q at *
  generalize rounded digits / power 308 = y at *
  have hy := hfirst.bounds
  have hpositive : 0 < y := by nlinarith
  have hlost := abs_rounded_sub_le_grain hpositive
  have hsum := (abs_add_le (rounded y - y) (y - q)).trans (add_le_add hlost hfirst)
  rw [sub_add_sub_cancel] at hsum
  nlinarith

/-- The second division makes what the first has lost ten times smaller. -/
theorem abs_second_quotient_sub_le {k : ℕ} (hk : 1 ≤ k) :
    |rounded (rounded digits / power 308) / power k - digits / 10 ^ 308 / 10 ^ k| ≤
      10 / 3 * grain * (digits / 10 ^ 308 / 10 ^ k) + 2 ^ (-1074 : ℤ) / 16 := by
  have hsmall := grain_lt
  have hpos := grain_pos
  have hleast := two_zpow_pos (-1074)
  have hq : (0 : ℚ) < digits / 10 ^ 308 := by positivity
  have hquotient := (near_power k).abs_div_sub_le (by positivity) (by linarith) hq.le
    (abs_rounded_quotient_sub_le hdigits)
  generalize (digits / 10 ^ 308 : ℚ) = q at *
  have hten : (10 : ℚ) ≤ 10 ^ k := le_self_pow₀ (by norm_num) (by omega)
  have height : 8 ≤ (1 - grain) * 10 ^ k := by nlinarith
  refine hquotient.trans ?_
  rw [div_le_iff₀ (by linarith)]
  have hscaled : (10 / 3 * grain * (q / 10 ^ k) + 2 ^ (-1074 : ℤ) / 16) * ((1 - grain) * 10 ^ k) =
      10 / 3 * (1 - grain) * (grain * q) + 2 ^ (-1074 : ℤ) / 16 * ((1 - grain) * 10 ^ k) := by
    field_simp
  have hlarge : 13 / 4 * (grain * q) ≤ 10 / 3 * (1 - grain) * (grain * q) :=
    mul_le_mul_of_nonneg_right (by linarith) (mul_pos hpos hq).le
  have hlost := mul_le_mul_of_nonneg_left height (by linarith : 0 ≤ (2 : ℚ) ^ (-1074 : ℤ) / 16)
  rw [hscaled]
  linarith

theorem abs_unrounded_sub_le (places : ℤ) :
    |unrounded digits places - digits * 10 ^ places| ≤
      10 / 3 * grain * (digits * 10 ^ places) + 2 ^ (-1074 : ℤ) / 16 := by
  have hleast := two_zpow_pos (-1074)
  rw [unrounded]
  split
  · rename_i h
    obtain ⟨k, rfl⟩ := Int.eq_ofNat_of_zero_le h
    rw [Int.toNat_natCast, zpow_natCast]
    exact (near_product hdigits k).trans (by linarith)
  · split
    · obtain ⟨k, rfl⟩ : ∃ k : ℕ, places = -k := ⟨places.natAbs, by omega⟩
      rw [neg_neg, Int.toNat_natCast, zpow_neg, zpow_natCast, ← div_eq_mul_inv]
      exact (near_quotient hdigits k).trans (by linarith)
    · obtain ⟨k, hk, rfl⟩ : ∃ k : ℕ, 1 ≤ k ∧ places = -(308 + k : ℕ) :=
        ⟨(-places - 308).toNat, by omega, by omega⟩
      have htail : (-(-((308 + k : ℕ) : ℤ)) - 308).toNat = k := by omega
      rw [htail, zpow_neg, zpow_natCast, ← div_eq_mul_inv, pow_add, ← div_div]
      exact abs_second_quotient_sub_le hdigits hk

end Unrounded

theorem rounded_pos {q : ℚ} (hq : 2 ^ (-1074 : ℤ) ≤ q) : 0 < rounded q := by
  have hpos := (two_zpow_pos (-1074)).trans_le hq
  have hplace : 2 ^ place q ≤ q := by
    rcases le_max_iff.1 (two_zpow_place_le hpos) with h | h <;> linarith
  linarith [(abs_le.1 (abs_rounded_sub_le q)).1]

theorem half_le_power (k : ℕ) : 1 / 2 ≤ power k := by
  have hten : (1 : ℚ) ≤ 10 ^ k := one_le_pow₀ (by norm_num)
  nlinarith [(near_power k).bounds.1, grain_lt]

theorem power_pos (k : ℕ) : 0 < power k := one_half_pos.trans_le (half_le_power k)

theorem rounded_natCast_pos {n : ℕ} (hn : 0 < n) : 0 < rounded n := by
  have hone : (1 : ℚ) ≤ n := by exact_mod_cast hn
  nlinarith [(near_rounded hone).bounds.1, grain_lt]

/-- However few the digits, the first quotient is not lost. -/
theorem first_quotient_pos {digits : ℕ} (hdigits : 0 < digits) :
    0 < rounded (rounded digits / power 308) := by
  have hone : (1 : ℚ) ≤ digits := by exact_mod_cast hdigits
  have hdigit : 1 / 2 ≤ rounded digits := by nlinarith [(near_rounded hone).bounds.1, grain_lt]
  have hsize : compareScaled 4 308 1 1074 = .lt := by decide +kernel
  rw [compareScaled_eq_lt, Nat.cast_one, one_mul] at hsize
  have hpower : power 308 ≤ 2 ^ (1074 : ℤ) / 2 := by
    have hten := ten_zpow_pos 308
    have hhigh : power 308 ≤ (1 + grain) * 10 ^ (308 : ℤ) := (near_power 308).bounds.2
    generalize (10 : ℚ) ^ (308 : ℤ) = ten at *
    generalize (2 : ℚ) ^ (1074 : ℤ) = most at *
    push_cast at hsize
    nlinarith [grain_lt]
  apply rounded_pos
  rw [le_div_iff₀ (power_pos 308)]
  calc (2 : ℚ) ^ (-1074 : ℤ) * power 308 ≤ 2 ^ (-1074 : ℤ) * (2 ^ (1074 : ℤ) / 2) :=
        mul_le_mul_of_nonneg_left hpower (two_zpow_pos _).le
    _ = 1 / 2 := by
        rw [← mul_div_assoc, ← zpow_add₀ two_ne_zero]
        rfl
    _ ≤ rounded digits := hdigit

theorem unrounded_pos {digits : ℕ} (hdigits : 0 < digits) (places : ℤ) : 0 < unrounded digits places := by
  have hdigit := rounded_natCast_pos hdigits
  rw [unrounded]
  split
  · exact mul_pos hdigit (power_pos _)
  · split
    · exact div_pos hdigit (power_pos _)
    · exact div_pos (first_quotient_pos hdigits) (power_pos _)

section Next

variable {m : ℕ} {e : ℤ} (h : Canonical m e) {digits : ℕ} (hdigits : 0 < digits) {places : ℤ}
  (hnear : |(digits * 10 ^ places - m * 2 ^ e : ℚ)| ≤ 2 ^ e / 2)

include h hnear

/-- A decimal of few digits that is next to a double does not count very small places. -/
theorem neg_le_places (hm : 0 < m) (hle : digits ≤ 10 ^ 17) : -616 ≤ places := by
  have hunit := two_zpow_pos e
  have hten := ten_zpow_pos places
  have hone : (1 : ℚ) ≤ m := by exact_mod_cast hm
  have hmost : (digits : ℚ) ≤ 10 ^ 17 := by exact_mod_cast hle
  have hsmall : compareScaled 1 (-600) 1 (-1075) = .lt := by decide +kernel
  rw [compareScaled_eq_lt, Nat.cast_one, one_mul, one_mul] at hsmall
  by_contra hlt
  have hbelow : (10 : ℚ) ^ places ≤ 10 ^ (-617 : ℤ) := zpow_le_zpow_right₀ (by norm_num) (by omega)
  have hplaces : (10 : ℚ) ^ (-600 : ℤ) = 10 ^ 17 * 10 ^ (-617 : ℤ) := by
    rw [← zpow_natCast, ← zpow_add₀ (by norm_num)]
    rfl
  have hleast : 2 ^ 1 * (2 : ℚ) ^ (-1075 : ℤ) ≤ 2 ^ e := by
    rw [← two_zpow_add]
    exact zpow_le_zpow_right₀ one_le_two h.2.1
  have hsignificand := mul_le_mul_of_nonneg_right hone hunit.le
  have hvalue := mul_le_mul hmost hbelow hten.le (by positivity)
  linarith [(abs_le.1 hnear).1]

include hdigits

/-- It does not count very large places either. -/
theorem places_le (he : e ≤ 971) : places ≤ 308 := by
  have hunit := two_zpow_pos e
  have hten := ten_zpow_pos places
  have hone : (1 : ℚ) ≤ digits := by exact_mod_cast hdigits
  have hbits : (m : ℚ) + 1 ≤ 2 ^ 53 := by exact_mod_cast h.1
  have hlarge : compareScaled 1 309 1 1024 = .gt := by decide +kernel
  rw [compareScaled_eq_gt, Nat.cast_one, one_mul, one_mul] at hlarge
  by_contra hlt
  have habove : (10 : ℚ) ^ (309 : ℤ) ≤ 10 ^ places := zpow_le_zpow_right₀ (by norm_num) (by omega)
  have hmost : 2 ^ 53 * (2 : ℚ) ^ e ≤ 2 ^ (1024 : ℤ) := by
    rw [← two_zpow_add]
    exact zpow_le_zpow_right₀ one_le_two (by omega)
  have hsignificand := mul_le_mul_of_nonneg_right hbits hunit.le
  have hvalue := mul_le_mul_of_nonneg_right hone hten.le
  generalize (10 : ℚ) ^ (309 : ℤ) = ten at *
  generalize (2 : ℚ) ^ (1024 : ℤ) = limit at *
  linarith [(abs_le.1 hnear).2]

end Next

theorem half_unit_le (e : ℤ) : (2 : ℚ) ^ e / 2 ≤ 9 / 16 * 2 ^ e := by
  linarith [two_zpow_pos e]

section Close

-- Digits that are left out may take a decimal a little further away than half a unit.
variable {m : ℕ} {e : ℤ} (h : Canonical m e) {digits : ℕ} (hdigits : 0 < digits) {places : ℤ}
  (hclose : |(digits * 10 ^ places - m * 2 ^ e : ℚ)| ≤ 9 / 16 * 2 ^ e)

include h hdigits hclose

theorem abs_unrounded_sub_lt : |unrounded digits places - m * 2 ^ e| < 4 * 2 ^ e := by
  have hunit := two_zpow_pos e
  have hleast : (2 : ℚ) ^ (-1074 : ℤ) ≤ 2 ^ e := zpow_le_zpow_right₀ one_le_two h.2.1
  have hbits : (m : ℚ) + 1 ≤ 2 ^ 53 := by exact_mod_cast h.1
  have hscaled := mul_le_mul_of_nonneg_right hbits hunit.le
  obtain ⟨hlow, hhigh⟩ := abs_le.1 hclose
  obtain ⟨hlow', hhigh'⟩ := abs_le.1 (abs_unrounded_sub_le hdigits places)
  rw [grain] at hlow' hhigh'
  rw [abs_lt]
  constructor <;> linarith

/-- A decimal that is next to a double is read within five units of that double's last place. -/
theorem abs_rounded_unrounded_sub_lt :
    |rounded (unrounded digits places) - m * 2 ^ e| < 5 * 2 ^ e := by
  have hunit := two_zpow_pos e
  have hbits : (m : ℚ) + 1 ≤ 2 ^ 53 := by exact_mod_cast h.1
  have hscaled := mul_le_mul_of_nonneg_right hbits hunit.le
  obtain ⟨hlow, hhigh⟩ := abs_lt.1 (abs_unrounded_sub_lt h hdigits hclose)
  have hplace : place (unrounded digits places) ≤ e + 1 := by
    rw [place_le_iff (unrounded_pos hdigits places) (by linarith [h.2.1]), add_assoc,
      show e + (1 + 53) = e + (54 : ℕ) from rfl, two_zpow_add]
    linarith
  have hlast : (2 : ℚ) ^ place (unrounded digits places) ≤ 2 * 2 ^ e := by
    have hle : (2 : ℚ) ^ place (unrounded digits places) ≤ 2 ^ (e + 1) :=
      zpow_le_zpow_right₀ one_le_two hplace
    have hstep := two_zpow_add e 1
    push_cast at hstep
    linarith
  obtain ⟨hlow', hhigh'⟩ := abs_le.1 (abs_rounded_sub_le (unrounded digits places))
  rw [abs_lt]
  constructor <;> linarith

end Close

theorem power_eq {k : ℕ} (hk : k ≤ 22) : power k = 10 ^ k := by
  have hsplit : (10 ^ k : ℚ) = (5 ^ k : ℕ) * 2 ^ (k : ℤ) := by
    rw [zpow_natCast]
    push_cast
    rw [← mul_pow]
    norm_num
  have hbits : 5 ^ k < 2 ^ 53 := (Nat.pow_le_pow_right (by decide) hk).trans_lt (by decide)
  rw [power, hsplit, rounded_natCast_mul hbits (by omega)]

/-- Nothing is rounded before the last step when the digits are a double and the power is small. -/
theorem unrounded_eq {digits : ℕ} (hdigits : rounded digits = digits) {places : ℤ}
    (hplaces : places.natAbs ≤ 22) : unrounded digits places = digits * 10 ^ places := by
  rw [unrounded, hdigits]
  split
  · rename_i h
    obtain ⟨k, rfl⟩ := Int.eq_ofNat_of_zero_le h
    rw [Int.toNat_natCast, zpow_natCast, power_eq (by omega)]
  · obtain ⟨k, rfl⟩ : ∃ k : ℕ, places = -k := ⟨places.natAbs, by omega⟩
    rw [if_pos (by omega), neg_neg, Int.toNat_natCast, power_eq (by omega), zpow_neg, zpow_natCast,
      div_eq_mul_inv]

end MetricWatch.Decimal
