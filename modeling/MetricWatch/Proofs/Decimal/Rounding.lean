import Mathlib.Data.Int.Log
import Mathlib.Data.Rat.Floor
import Mathlib.Tactic.FieldSimp
import Mathlib.Tactic.Linarith
import Mathlib.Tactic.Positivity
import Mathlib.Tactic.Ring

/-!
Rounding to the nearest double, on rationals. A double is a whole number of units in its last place, and
how large that unit is depends on the size of the number alone.
-/

namespace MetricWatch.Decimal

/-- The nearest whole number, and of two that are equally near the even one. -/
def roundEven (x : ℚ) : ℤ :=
  if x - ⌊x⌋ < 1 / 2 ∨ x - ⌊x⌋ = 1 / 2 ∧ ⌊x⌋ % 2 = 0 then ⌊x⌋ else ⌊x⌋ + 1

theorem abs_roundEven_sub_le (x : ℚ) : |roundEven x - x| ≤ 1 / 2 := by
  have hlow := Int.floor_le x
  have hhigh := Int.lt_floor_add_one x
  rw [roundEven, abs_le]
  split
  · rename_i h
    rcases h with h | ⟨h, -⟩ <;> constructor <;> linarith
  · rename_i h
    have hhalf : 1 / 2 ≤ x - ⌊x⌋ := by
      by_contra hlt
      exact h (.inl (not_le.1 hlt))
    push_cast
    constructor <;> linarith

theorem le_roundEven {x : ℚ} {n : ℤ} (h : n - 1 / 2 < x) : n ≤ roundEven x := by
  have hmiss := (abs_le.1 (abs_roundEven_sub_le x)).1
  apply Int.le_of_sub_one_lt
  have hlt : ((n - 1 : ℤ) : ℚ) < roundEven x := by
    push_cast
    linarith
  exact_mod_cast hlt

theorem roundEven_eq {x : ℚ} {n : ℤ} (hnear : |x - n| ≤ 1 / 2)
    (heven : |x - n| = 1 / 2 → n % 2 = 0) : roundEven x = n := by
  obtain ⟨hlow, hhigh⟩ := abs_le.1 hnear
  by_cases hbelow : (n : ℚ) ≤ x
  · have hfloor : ⌊x⌋ = n := Int.floor_eq_iff.2 ⟨hbelow, by linarith⟩
    rw [abs_of_nonneg (by linarith)] at heven
    rw [roundEven, hfloor, if_pos]
    rcases hhigh.lt_or_eq with hlt | heq
    · exact .inl hlt
    · exact .inr ⟨heq, heven heq⟩
  · have hfloor : ⌊x⌋ = n - 1 := by
      rw [Int.floor_eq_iff]
      push_cast
      constructor <;> linarith
    rw [abs_of_neg (by linarith)] at heven
    rw [roundEven, hfloor, if_neg]
    · omega
    · push_cast
      rintro (hlt | ⟨heq, hodd⟩)
      · linarith
      · have := heven (by linarith)
        omega

theorem roundEven_eq_of_lt {x : ℚ} {n : ℤ} (h : |x - n| < 1 / 2) : roundEven x = n :=
  roundEven_eq h.le fun heq => absurd heq h.ne

theorem roundEven_intCast (n : ℤ) : roundEven n = n := by
  apply roundEven_eq_of_lt
  rw [sub_self, abs_zero]
  norm_num

/-- The exponent of the last place of the doubles near a positive rational. -/
def place (q : ℚ) : ℤ := max (Int.log 2 q - 52) (-1074)

/-- The double nearest to a rational, were there no greatest one. -/
def rounded (q : ℚ) : ℚ := roundEven (q / 2 ^ place q) * 2 ^ place q

theorem two_zpow_pos (e : ℤ) : (0 : ℚ) < 2 ^ e := zpow_pos (by norm_num) e

theorem two_zpow_add (e : ℤ) (k : ℕ) : (2 : ℚ) ^ (e + k) = 2 ^ k * 2 ^ e := by
  rw [zpow_add₀ (by norm_num), zpow_natCast, mul_comm]

theorem le_place (q : ℚ) : -1074 ≤ place q := le_max_right _ _

section Positive

variable {q : ℚ} (hq : 0 < q)

include hq

theorem place_le_iff {e : ℤ} (he : -1074 ≤ e) : place q ≤ e ↔ q < 2 ^ (e + 53) := by
  have hlog : q < 2 ^ (e + 53) ↔ Int.log 2 q < e + 53 := by
    exact_mod_cast Int.lt_zpow_iff_log_lt one_lt_two hq
  rw [hlog, place, max_le_iff]
  omega

theorem lt_two_zpow_place : q < 2 ^ (place q + 53) := (place_le_iff hq (le_place q)).1 le_rfl

theorem le_place_of_le {e : ℤ} (h : 2 ^ (e + 52) ≤ q) : e ≤ place q := by
  have hlog : 2 ^ (e + 52) ≤ q ↔ e + 52 ≤ Int.log 2 q := by
    exact_mod_cast Int.zpow_le_iff_le_log one_lt_two hq
  rw [hlog] at h
  exact le_max_of_le_left (by omega)

theorem two_zpow_place_le : 2 ^ place q ≤ max (q / 2 ^ 52) (2 ^ (-1074 : ℤ)) := by
  rcases le_total (Int.log 2 q - 52) (-1074) with h | h
  · rw [place, max_eq_right h]
    exact le_max_right _ _
  · rw [place, max_eq_left h]
    have hlog : (2 : ℚ) ^ Int.log 2 q ≤ q := by
      exact_mod_cast Int.zpow_log_le_self one_lt_two hq
    apply le_max_of_le_left
    rw [zpow_sub₀ (by norm_num)]
    exact div_le_div_of_nonneg_right hlog (by norm_num)

end Positive

/-- Rounding misses by half a unit in the last place at most. -/
theorem abs_rounded_sub_le (q : ℚ) : |rounded q - q| ≤ 2 ^ place q / 2 := by
  have hpos := two_zpow_pos (place q)
  have herror := abs_roundEven_sub_le (q / 2 ^ place q)
  have hscaled : rounded q - q = (roundEven (q / 2 ^ place q) - q / 2 ^ place q) * 2 ^ place q := by
    rw [rounded, sub_mul, div_mul_cancel₀ q hpos.ne']
  rw [hscaled, abs_mul, abs_of_pos hpos]
  linarith [mul_le_mul_of_nonneg_right herror hpos.le]

/-- A rounded significand has at most 53 bits or is the next power of two, and fewer than 53 only in
the least place. -/
theorem roundEven_bounds {q : ℚ} (hq : 0 < q) :
    roundEven (q / 2 ^ place q) ≤ 2 ^ 53 ∧
      (2 ^ 52 ≤ roundEven (q / 2 ^ place q) ∨ place q = -1074) := by
  have hpos := two_zpow_pos (place q)
  obtain ⟨hlow, hhigh⟩ := abs_le.1 (abs_roundEven_sub_le (q / 2 ^ place q))
  constructor
  · have hlt : q / 2 ^ place q < 2 ^ 53 := by
      rw [div_lt_iff₀ hpos, ← two_zpow_add]
      exact lt_two_zpow_place hq
    have hint : (roundEven (q / 2 ^ place q) : ℚ) < (2 ^ 53 + 1 : ℤ) := by
      push_cast
      linarith
    exact Int.lt_add_one_iff.1 (by exact_mod_cast hint)
  · by_cases hleast : place q = -1074
    · exact .inr hleast
    · have hlog : Int.log 2 q = place q + 52 := by
        rw [place] at hleast ⊢
        omega
      have hle : 2 ^ 52 ≤ q / 2 ^ place q := by
        rw [le_div_iff₀ hpos, ← two_zpow_add]
        have hself := Int.zpow_log_le_self one_lt_two hq
        rw [hlog] at hself
        exact_mod_cast hself
      left
      apply le_roundEven
      push_cast
      linarith

/-- The greatest double. -/
def greatest : ℕ := (2 ^ 53 - 1) * 2 ^ 971

theorem greatest_eq : (greatest : ℚ) = (2 ^ 53 - 1) * 2 ^ (971 : ℤ) := by
  rw [greatest, Nat.cast_mul, Nat.cast_pow, Nat.cast_ofNat]
  norm_num only
  rfl

theorem limit_eq : (2 : ℚ) ^ 1024 = 2 ^ 53 * 2 ^ (971 : ℤ) := two_zpow_add 971 53

theorem rounded_lt {q : ℚ} (hq : 0 < q) (hle : q ≤ greatest) : rounded q < 2 ^ 1024 := by
  have hplace : place q ≤ 971 → (2 : ℚ) ^ place q ≤ 2 ^ (971 : ℤ) := zpow_le_zpow_right₀ one_le_two
  rw [place_le_iff hq (by decide), show (971 + 53 : ℤ) = 971 + (53 : ℕ) from rfl, two_zpow_add] at hplace
  have herror := (abs_le.1 (abs_rounded_sub_le q)).2
  have hunit := two_zpow_pos 971
  rw [greatest_eq] at hle
  rw [limit_eq]
  generalize (2 : ℚ) ^ (971 : ℤ) = unit at *
  have hplace := hplace (by linarith only [hle, hunit])
  linarith only [hle, hunit, herror, hplace]

theorem rounded_eq {q : ℚ} {n e : ℤ} (hplace : place q = e) (hnear : |q - n * 2 ^ e| ≤ 2 ^ e / 2)
    (heven : |q - n * 2 ^ e| = 2 ^ e / 2 → n % 2 = 0) : rounded q = n * 2 ^ e := by
  have hpos := two_zpow_pos e
  have hscaled : |q / 2 ^ e - n| * 2 ^ e = |q - n * 2 ^ e| := by
    rw [← abs_of_pos hpos, ← abs_mul, abs_of_pos hpos, sub_mul, div_mul_cancel₀ q hpos.ne']
  have hdigits : roundEven (q / 2 ^ e) = n := by
    rw [← hscaled] at hnear heven
    apply roundEven_eq
    · exact le_of_mul_le_mul_right (by linarith) hpos
    · exact fun h => heven (by rw [h]; ring)
  rw [rounded, hplace, hdigits]

theorem rounded_zero : rounded 0 = 0 := by
  have hzero := roundEven_intCast 0
  rw [Int.cast_zero] at hzero
  rw [rounded, zero_div, hzero, Int.cast_zero, zero_mul]

/-- A whole number of units is a double when it has at most 53 bits. -/
theorem rounded_natCast_mul {n : ℕ} (hn : n < 2 ^ 53) {e : ℤ} (he : -1074 ≤ e) :
    rounded (n * 2 ^ e) = n * 2 ^ e := by
  rcases Nat.eq_zero_or_pos n with rfl | hpos
  · rw [Nat.cast_zero, zero_mul, rounded_zero]
  · have hq : (0 : ℚ) < n * 2 ^ e := mul_pos (by exact_mod_cast hpos) (two_zpow_pos e)
    have hplace : place (n * 2 ^ e : ℚ) ≤ e := by
      rw [place_le_iff hq he, show e + 53 = e + (53 : ℕ) from rfl, two_zpow_add]
      exact mul_lt_mul_of_pos_right (by exact_mod_cast hn) (two_zpow_pos e)
    obtain ⟨k, hk⟩ := Int.eq_ofNat_of_zero_le (sub_nonneg.2 hplace)
    -- The number is a multiple of its own last place, which is no coarser than the given one.
    have hunits : (n * 2 ^ e : ℚ) / 2 ^ place (n * 2 ^ e : ℚ) = ((n * 2 ^ k : ℕ) : ℤ) := by
      rw [div_eq_iff (two_zpow_pos _).ne']
      push_cast
      rw [mul_assoc, ← two_zpow_add, ← hk, add_sub_cancel]
    rw [rounded, hunits, roundEven_intCast, ← hunits, div_mul_cancel₀ _ (two_zpow_pos _).ne']

theorem rounded_natCast {n : ℕ} (hn : n < 2 ^ 53) (k : ℕ) :
    rounded (n * 2 ^ k : ℕ) = (n * 2 ^ k : ℕ) := by
  have hround := @rounded_natCast_mul n hn k (by omega)
  rw [zpow_natCast] at hround
  rwa [Nat.cast_mul, Nat.cast_pow, Nat.cast_ofNat]

/-- Half the distance to the double below. Below a power of two the doubles lie closer. -/
def halfGapBelow (m : ℕ) (e : ℤ) : ℚ := if m = 2 ^ 52 ∧ -1074 < e then 2 ^ e / 4 else 2 ^ e / 2

/-- Whether a significand and an exponent are those of a double. -/
def Canonical (m : ℕ) (e : ℤ) : Prop := m < 2 ^ 53 ∧ -1074 ≤ e ∧ (2 ^ 52 ≤ m ∨ e = -1074)

theorem place_of_canonical {m : ℕ} {e : ℤ} (h : Canonical m e) (hm : 0 < m) :
    place (m * 2 ^ e) = e := by
  obtain ⟨hbits, he, hnormal⟩ := h
  have hunit := two_zpow_pos e
  have hq : (0 : ℚ) < m * 2 ^ e := mul_pos (by exact_mod_cast hm) hunit
  apply le_antisymm
  · rw [place_le_iff hq he, show e + 53 = e + (53 : ℕ) from rfl, two_zpow_add]
    exact mul_lt_mul_of_pos_right (by exact_mod_cast hbits) hunit
  · rcases hnormal with hnormal | rfl
    · apply le_place_of_le hq
      rw [show e + 52 = e + (52 : ℕ) from rfl, two_zpow_add]
      exact mul_le_mul_of_nonneg_right (by exact_mod_cast hnormal) hunit.le
    · exact le_place _

theorem canonical_inj {m n : ℕ} {e f : ℤ} (h : Canonical m e) (hm : 0 < m) (h' : Canonical n f)
    (hn : 0 < n) (heq : (m * 2 ^ e : ℚ) = n * 2 ^ f) : m = n ∧ e = f := by
  have hplace := congrArg place heq
  rw [place_of_canonical h hm, place_of_canonical h' hn] at hplace
  subst hplace
  exact ⟨by exact_mod_cast mul_right_cancel₀ (two_zpow_pos e).ne' heq, rfl⟩

theorem halfGapBelow_le (m : ℕ) (e : ℤ) : halfGapBelow m e ≤ 2 ^ e / 2 := by
  have hunit := two_zpow_pos e
  rw [halfGapBelow]
  split <;> linarith

/-- Below a power of two the last place is half of that above it. -/
theorem rounded_eq_below {e : ℤ} (he : -1074 < e) {q : ℚ} (hlow : 2 ^ 52 * 2 ^ e - 2 ^ e / 4 ≤ q)
    (hlt : q < 2 ^ 52 * 2 ^ e) : rounded q = 2 ^ 52 * 2 ^ e := by
  obtain ⟨f, rfl⟩ : ∃ f, e = f + (1 : ℕ) := ⟨e - 1, by omega⟩
  have hunit := two_zpow_pos f
  rw [two_zpow_add] at hlow hlt
  have hq : 0 < q := by linarith
  have hplace : place q = f := by
    apply le_antisymm
    · rw [place_le_iff hq (by omega), show f + 53 = f + (53 : ℕ) from rfl, two_zpow_add]
      linarith
    · apply le_place_of_le hq
      rw [show f + 52 = f + (52 : ℕ) from rfl, two_zpow_add]
      linarith
  have hround := @rounded_eq q (2 ^ 53) f hplace ?_ (fun _ => by norm_num)
  · rw [hround, two_zpow_add]
    push_cast
    ring
  · push_cast
    rw [abs_le]
    constructor <;> linarith

/-- What lies at most halfway to the neighbours of a double is rounded to it. -/
theorem rounded_eq_of_between {m : ℕ} {e : ℤ} (h : Canonical m e) (hm : 0 < m) {q : ℚ}
    (hlow : m * 2 ^ e - halfGapBelow m e ≤ q) (hhigh : q ≤ m * 2 ^ e + 2 ^ e / 2)
    (heven : q = m * 2 ^ e - halfGapBelow m e ∨ q = m * 2 ^ e + 2 ^ e / 2 → m % 2 = 0) :
    rounded q = m * 2 ^ e := by
  obtain ⟨hbits, he, hnormal⟩ := h
  have hunit := two_zpow_pos e
  have hm1 : (1 : ℚ) ≤ m := by exact_mod_cast hm
  have hm53 : (m : ℚ) + 1 ≤ 2 ^ 53 := by exact_mod_cast hbits
  have hgap := halfGapBelow_le m e
  have hq : 0 < q := by nlinarith
  by_cases hbelow : m = 2 ^ 52 ∧ -1074 < e ∧ q < m * 2 ^ e
  · obtain ⟨rfl, hexp, hlt⟩ := hbelow
    rw [halfGapBelow, if_pos ⟨rfl, hexp⟩] at hlow
    push_cast at hlow hlt ⊢
    exact rounded_eq_below hexp hlow hlt
  · have hplace : place q = e := by
      apply le_antisymm
      · rw [place_le_iff hq he, show e + 53 = e + (53 : ℕ) from rfl, two_zpow_add]
        nlinarith
      · rcases he.eq_or_lt with rfl | hexp
        · exact le_place q
        · apply le_place_of_le hq
          rw [show e + 52 = e + (52 : ℕ) from rfl, two_zpow_add]
          rcases (hnormal.resolve_right hexp.ne').lt_or_eq with hlt | rfl
          · have hlt : (2 ^ 52 + 1 : ℚ) ≤ m := by exact_mod_cast hlt
            nlinarith
          · exact_mod_cast not_lt.1 fun hlt => hbelow ⟨rfl, hexp, hlt⟩
    have hround := @rounded_eq q m e hplace ?_ ?_
    · exact_mod_cast hround
    · push_cast
      rw [abs_le]
      constructor <;> linarith
    · push_cast
      intro hhalf
      by_cases heq : m = 2 ^ 52
      · omega
      · rw [halfGapBelow, if_neg fun h => heq h.1] at heven
        rcases abs_eq (by positivity) |>.1 hhalf with h | h
        · exact_mod_cast heven (.inr (by linarith))
        · exact_mod_cast heven (.inl (by linarith))

/-- All but the four greatest doubles are four units in the last place below the greatest. -/
theorem add_four_units_le {m : ℕ} {e : ℤ} (h : Canonical m e) (he : e ≤ 971)
    (hbelow : ¬(e = 971 ∧ 2 ^ 53 - 4 ≤ m)) : (m + 4 : ℚ) * 2 ^ e ≤ greatest := by
  have hunit := two_zpow_pos e
  rw [greatest_eq]
  rcases he.lt_or_eq with hlt | rfl
  · have hbits : (m : ℚ) + 1 ≤ 2 ^ 53 := by exact_mod_cast h.1
    have hdouble : 2 ^ 1 * (2 : ℚ) ^ e ≤ 2 ^ (971 : ℤ) := by
      rw [← two_zpow_add]
      exact zpow_le_zpow_right₀ one_le_two (by omega)
    generalize (2 : ℚ) ^ (971 : ℤ) = top at *
    nlinarith
  · have hbits : (m : ℚ) + 5 ≤ 2 ^ 53 := by exact_mod_cast (by omega : m + 5 ≤ 2 ^ 53)
    exact mul_le_mul_of_nonneg_right (by linarith) hunit.le

end MetricWatch.Decimal
