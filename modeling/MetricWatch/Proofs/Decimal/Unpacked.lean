import Mathlib
import MetricWatch.Proofs.Decimal.Rounding

/-!
The arithmetic of doubles that are taken apart into a sign, a significand and an exponent: each operation
gives the double nearest to what it would give exactly, were there no greatest double.
-/

namespace MetricWatch.Decimal

open Float.Model (Format UnpackedFloat totalExponent)
open Float.Model.UnpackedFloat

/-! ## Mantissas with residual bits -/

/-- What a mantissa and its two residual bits say of a number of the mantissa's units. -/
def Shows (em : ExtendedMantissa) (x : ℚ) : Prop :=
  match em.roundBit, em.stickyBit with
  | false, false => x = em.mantissa
  | false, true => em.mantissa < x ∧ x < em.mantissa + 1 / 2
  | true, false => x = em.mantissa + 1 / 2
  | true, true => em.mantissa + 1 / 2 < x ∧ x < em.mantissa + 1

theorem shows_exact (m : ℕ) : Shows (.ofMantissaAndAccuracy m .exact) m := rfl

theorem shows_fraction (m : ℕ) {num den : ℕ} (h : num < den) :
    Shows (.ofMantissaAndAccuracy m (accuracyOfFraction num den)) (m + num / den) := by
  have hden : (0 : ℚ) < den := by exact_mod_cast (Nat.zero_le num).trans_lt h
  have hlt : (num : ℚ) / den < 1 := (div_lt_one hden).2 (by exact_mod_cast h)
  rw [accuracyOfFraction]
  split
  · rename_i hzero
    rw [hzero, Nat.cast_zero, zero_div, add_zero]
    exact shows_exact m
  · rename_i hzero
    have hnum : (0 : ℚ) < num / den := div_pos (by exact_mod_cast Nat.pos_of_ne_zero hzero) hden
    cases hcompare : compare (2 * num) den with
    | lt =>
        have hlow : (2 * num : ℚ) < den := by exact_mod_cast Nat.compare_eq_lt.1 hcompare
        have hhalf : (num : ℚ) / den < 1 / 2 := by
          rw [div_lt_div_iff₀ hden two_pos]
          linarith
        change (m : ℚ) < m + num / den ∧ (m + num / den : ℚ) < m + 1 / 2
        constructor <;> linarith
    | eq =>
        have hhalf : (2 * num : ℚ) = den := by exact_mod_cast Nat.compare_eq_eq.1 hcompare
        change (m + num / den : ℚ) = m + 1 / 2
        rw [← hhalf]
        field_simp
    | gt =>
        have hhigh : (den : ℚ) < 2 * num := by exact_mod_cast Nat.compare_eq_gt.1 hcompare
        have hhalf : 1 / 2 < (num : ℚ) / den := by
          rw [div_lt_div_iff₀ two_pos hden]
          linarith
        change (m + 1 / 2 : ℚ) < m + num / den ∧ (m + num / den : ℚ) < m + 1
        constructor <;> linarith

namespace Shows

variable {em : ExtendedMantissa} {x : ℚ}

theorem mantissa_le (h : Shows em x) : em.mantissa ≤ x ∧ x < em.mantissa + 1 := by
  obtain ⟨m, round, sticky⟩ := em
  cases round <;> cases sticky <;> simp only [Shows] at h ⊢ <;> constructor <;> linarith

theorem shiftRightOne (h : Shows em x) : Shows em.shiftRightOne (x / 2) := by
  obtain ⟨m, round, sticky⟩ := em
  have hsplit : ((m % 2 : ℕ) : ℚ) + 2 * (m / 2 : ℕ) = m := by exact_mod_cast Nat.mod_add_div m 2
  rw [ExtendedMantissa.shiftRightOne]
  rcases Nat.mod_two_eq_zero_or_one m with hm | hm <;> rw [hm] at hsplit ⊢ <;>
    cases round <;> cases sticky <;> simp [Shows] at h hsplit ⊢ <;>
    first | linarith | (constructor <;> linarith)

theorem shiftRight (h : Shows em x) (k : ℕ) : Shows (em >>> k) (x / 2 ^ k) := by
  change Shows (k.repeat ExtendedMantissa.shiftRightOne em) _
  induction k with
  | zero => rwa [pow_zero, div_one]
  | succ k ih =>
      rw [pow_succ, ← div_div]
      exact ih.shiftRightOne

theorem roundedMantissa (h : Shows em x) : (em.roundedMantissa : ℤ) = roundEven x := by
  obtain ⟨m, round, sticky⟩ := em
  symm
  cases round <;> cases sticky <;>
    simp only [Shows, ExtendedMantissa.roundedMantissa, ExtendedMantissa.accuracy,
      Accuracy.roundToNearestEven] at h ⊢
  · rw [h]
    exact roundEven_intCast m
  · apply roundEven_eq_of_lt
    rw [abs_lt]
    push_cast
    constructor <;> linarith
  · have hparity : ((m % 2 : ℕ) : ℚ) = 0 ∨ ((m % 2 : ℕ) : ℚ) = 1 := by
      exact_mod_cast Nat.mod_two_eq_zero_or_one m
    apply roundEven_eq
    · rw [h, Int.cast_natCast, Nat.cast_add, abs_le]
      rcases hparity with hm | hm <;> rw [hm] <;> constructor <;> linarith
    · omega
  · apply roundEven_eq_of_lt
    rw [abs_lt]
    push_cast
    constructor <;> linarith

end Shows

/-! ## Rounding as the machine does it -/

/-- Whether an unpacked double is the given number, which is not negative. -/
def Denotes (u : UnpackedFloat) (q : ℚ) : Prop :=
  (u = .zero .positive ∧ q = 0) ∨
    ∃ m e, ∃ hm : 0 < m, u = .finite .positive m e hm ∧ Canonical m e ∧ q = m * 2 ^ e

theorem targetExponent_binary64 (e : ℤ) :
    Format.binary64.targetExponent e = max (e - 53) (-1074) := rfl

theorem targetExponent_eq (m : ℕ) (e : ℤ) :
    Format.binary64.targetExponent (totalExponent m e) = max (m.log2 + e - 52) (-1074) := by
  rw [targetExponent_binary64, totalExponent]
  omega

/-- A number has the same place as its mantissa. -/
theorem place_eq_targetExponent {m : ℕ} {x : ℚ} (hx : 0 < x) (hlow : m ≤ x) (hhigh : x < m + 1)
    {e : ℤ} (hdrop : 52 ≤ m.log2 ∨ e ≤ -1074) :
    place (x * 2 ^ e) = Format.binary64.targetExponent (totalExponent m e) := by
  have hunit := two_zpow_pos e
  have hq : 0 < x * 2 ^ e := mul_pos hx hunit
  rw [targetExponent_eq]
  apply le_antisymm
  · rw [place_le_iff hq (le_max_right _ _)]
    have hlog : (m + 1 : ℚ) ≤ 2 ^ (m.log2 + 1) := by exact_mod_cast Nat.lt_log2_self
    calc x * 2 ^ e < 2 ^ (m.log2 + 1) * 2 ^ e := by
          exact mul_lt_mul_of_pos_right (hhigh.trans_le hlog) hunit
      _ = 2 ^ (e + (m.log2 + 1 : ℕ)) := (two_zpow_add e _).symm
      _ ≤ _ := zpow_le_zpow_right₀ one_le_two (by push_cast; omega)
  · refine max_le ?_ (le_place _)
    rcases Nat.eq_zero_or_pos m with rfl | hm
    · have := le_place (x * 2 ^ e)
      rw [Nat.log2_zero] at hdrop ⊢
      omega
    · apply le_place_of_le hq
      have hlog : (2 ^ m.log2 : ℚ) ≤ m := by exact_mod_cast Nat.log2_self_le hm.ne'
      rw [sub_add_cancel, add_comm, two_zpow_add]
      exact mul_le_mul_of_nonneg_right (hlog.trans hlow) hunit.le

theorem shiftToTargetExponent_of_le {n : ℕ} {t : ℤ} {accuracy : Accuracy} {k : ℕ}
    (h : (Format.binary64.targetExponent (totalExponent n t) - t).toNat = k) :
    shiftToTargetExponent Format.binary64 n t accuracy =
      (ExtendedMantissa.ofMantissaAndAccuracy n accuracy >>> k, t + k) := by
  simp only [shiftToTargetExponent, shiftToExponent, h]

/-- The carry of a rounded mantissa takes one more shift. -/
theorem shiftToTargetExponent_exact {n : ℕ} (hn : n ≤ 2 ^ 53) {t : ℤ} (ht : -1074 ≤ t) :
    shiftToTargetExponent Format.binary64 n t .exact =
      if n < 2 ^ 53 then (⟨n, false, false⟩, t) else (⟨2 ^ 52, false, false⟩, t + 1) := by
  split
  · rename_i hlt
    have hlog : n.log2 < 53 := by
      rcases Nat.eq_zero_or_pos n with rfl | hpos
      · rw [Nat.log2_zero]
        decide
      · exact (Nat.log2_lt hpos.ne').2 hlt
    rw [@shiftToTargetExponent_of_le n t .exact 0 (by rw [targetExponent_eq]; omega)]
    rw [Nat.cast_zero, add_zero]
    rfl
  · obtain rfl : n = 2 ^ 53 := by omega
    rw [@shiftToTargetExponent_of_le (2 ^ 53) t .exact 1]
    · rfl
    · rw [targetExponent_eq, Nat.log2_two_pow]
      omega

theorem denotes_roundWithAccuracy {m : ℕ} {e : ℤ} {accuracy : Accuracy} {x : ℚ}
    (hx : Shows (.ofMantissaAndAccuracy m accuracy) x) (hpos : 0 < x)
    (hdrop : 52 ≤ m.log2 ∨ e ≤ -1074) :
    Denotes (roundWithAccuracy Format.binary64 .positive m e accuracy) (rounded (x * 2 ^ e)) := by
  have hmantissa : (ExtendedMantissa.ofMantissaAndAccuracy m accuracy).mantissa = m := by
    rcases accuracy with _ | (_ | _ | _) <;> rfl
  obtain ⟨hlow, hhigh⟩ := hx.mantissa_le
  rw [hmantissa] at hlow hhigh
  have hq : 0 < x * 2 ^ e := mul_pos hpos (two_zpow_pos e)
  have hplace := place_eq_targetExponent hpos hlow hhigh hdrop
  have hle : e ≤ place (x * 2 ^ e) := by
    rw [hplace, targetExponent_eq]
    omega
  obtain ⟨k, hk⟩ := Int.eq_ofNat_of_zero_le (sub_nonneg.2 hle)
  have hexponent : e + k = place (x * 2 ^ e) := by omega
  have hshown := hx.shiftRight k
  have hscaled : x / 2 ^ k = x * 2 ^ e / 2 ^ place (x * 2 ^ e) := by
    rw [← hexponent, two_zpow_add, mul_div_mul_right _ _ (two_zpow_pos e).ne']
  rw [hscaled] at hshown
  have hdigits := hshown.roundedMantissa
  obtain ⟨hbits, hfull⟩ := roundEven_bounds hq
  rw [rounded, ← hdigits, Int.cast_natCast]
  rw [← hdigits] at hbits hfull
  rw [roundWithAccuracy, @shiftToTargetExponent_of_le m e accuracy k (by rw [← hplace, hk]; rfl),
    hexponent]
  dsimp only
  generalize (ExtendedMantissa.ofMantissaAndAccuracy m accuracy >>> k).roundedMantissa = n at *
  rw [shiftToTargetExponent_exact (by exact_mod_cast hbits) (le_place _)]
  split
  · rename_i hlt
    dsimp only
    split
    · rename_i hzero
      rw [hzero, Nat.cast_zero, zero_mul]
      exact .inl ⟨rfl, rfl⟩
    · exact .inr ⟨n, _, _, rfl, ⟨hlt, le_place _, by exact_mod_cast hfull⟩, rfl⟩
  · obtain rfl : n = 2 ^ 53 := by omega
    refine .inr ⟨2 ^ 52, place (x * 2 ^ e) + 1, by decide, rfl, ⟨by decide, ?_, .inl le_rfl⟩, ?_⟩
    · linarith [le_place (x * 2 ^ e)]
    · have := two_zpow_add (place (x * 2 ^ e)) 1
      push_cast at this ⊢
      rw [this]
      ring

/-! ## Operations -/

theorem le_log2_mul {m n i j : ℕ} (hm : 2 ^ i ≤ m) (hn : 2 ^ j ≤ n) : i + j ≤ (m * n).log2 := by
  have hpos : 0 < m * n := Nat.mul_pos ((by positivity : 0 < 2 ^ i).trans_le hm)
    ((by positivity : 0 < 2 ^ j).trans_le hn)
  rw [Nat.le_log2 hpos.ne', pow_add]
  exact Nat.mul_le_mul hm hn

theorem denotes_round {m : ℕ} (hm : 0 < m) (e : ℤ) :
    Denotes (UnpackedFloat.round Format.binary64 .positive m e) (rounded (m * 2 ^ e)) := by
  simp only [UnpackedFloat.round, decreaseExponent, targetExponent_eq, Nat.shiftLeft_eq]
  obtain ⟨k, hk⟩ : ∃ k, (e - max ((m.log2 : ℤ) + e - 52) (-1074)).toNat = k := ⟨_, rfl⟩
  rw [hk]
  have hvalue : (m * 2 ^ e : ℚ) = (m * 2 ^ k : ℕ) * 2 ^ (e - k) := by
    push_cast
    rw [mul_assoc, ← two_zpow_add, sub_add_cancel]
  rw [hvalue]
  apply denotes_roundWithAccuracy (shows_exact _) (by positivity)
  have hlog := le_log2_mul (Nat.log2_self_le hm.ne') (le_refl (2 ^ k))
  omega

theorem denotes_product {m n : ℕ} (hm : 0 < m) (hn : 0 < n) (e f : ℤ) (hlog : 52 ≤ (m * n).log2) :
    Denotes (mul Format.binary64 (.finite .positive m e hm) (.finite .positive n f hn))
      (rounded (m * 2 ^ e * (n * 2 ^ f))) := by
  have hvalue : (m * 2 ^ e * (n * 2 ^ f) : ℚ) = (m * n : ℕ) * 2 ^ (e + f) := by
    rw [zpow_add₀ two_ne_zero]
    push_cast
    ring
  rw [hvalue]
  apply denotes_roundWithAccuracy (shows_exact _)
  · exact_mod_cast Nat.mul_pos hm hn
  · exact .inl hlog

theorem denotes_mul {u v : UnpackedFloat} {a b : ℚ} (hu : Denotes u a) (hv : Denotes v b)
    (ha : 0 < a) (hb : 1 / 2 ≤ b) : Denotes (mul Format.binary64 u v) (rounded (a * b)) := by
  rcases hu with ⟨-, rfl⟩ | ⟨m, e, hm, rfl, -, rfl⟩
  · exact absurd ha (lt_irrefl 0)
  rcases hv with ⟨-, rfl⟩ | ⟨n, f, hn, rfl, hc, rfl⟩
  · norm_num at hb
  have hplace : -53 ≤ place (n * 2 ^ f) := le_place_of_le (by linarith) (by norm_num at hb ⊢; exact hb)
  rw [place_of_canonical hc hn] at hplace
  have hfull : 2 ^ 52 ≤ n := hc.2.2.resolve_right (by omega)
  have hlog := @le_log2_mul m n 0 52 hm hfull
  exact denotes_product hm hn e f (by omega)

/-- A quotient keeps 53 bits when the numerator has been given that many more than the denominator has. -/
theorem le_log2_div {m n k : ℕ} (hm : 0 < m) (hn : 0 < n) (hbits : 53 + n.log2 ≤ m.log2 + k) :
    52 ≤ (m * 2 ^ k / n).log2 := by
  have hdenominator : n < 2 ^ (n.log2 + 1) := Nat.lt_log2_self
  have hnumerator : 2 ^ (m.log2 + k) ≤ m * 2 ^ k := by
    rw [pow_add]
    exact Nat.mul_le_mul_right _ (Nat.log2_self_le hm.ne')
  have hquotient : 2 ^ 52 ≤ m * 2 ^ k / n := by
    rw [Nat.le_div_iff_mul_le hn]
    calc 2 ^ 52 * n ≤ 2 ^ 52 * 2 ^ (n.log2 + 1) := Nat.mul_le_mul_left _ hdenominator.le
      _ = 2 ^ (53 + n.log2) := by ring
      _ ≤ 2 ^ (m.log2 + k) := Nat.pow_le_pow_right two_pos hbits
      _ ≤ m * 2 ^ k := hnumerator
  rw [Nat.le_log2]
  · exact hquotient
  · omega

theorem denotes_quotient {m n : ℕ} (hm : 0 < m) (hn : 0 < n) (e f : ℤ) :
    Denotes (div Format.binary64 (.finite .positive m e hm) (.finite .positive n f hn))
      (rounded (m * 2 ^ e / (n * 2 ^ f))) := by
  change Denotes (roundWithAccuracy Format.binary64 .positive (divCore Format.binary64 m e n f).1
    (divCore Format.binary64 m e n f).2.1 (divCore Format.binary64 m e n f).2.2) _
  simp only [divCore, Nat.shiftLeft_eq, targetExponent_binary64, totalExponent]
  obtain ⟨t, ht⟩ : ∃ t, min (e - f)
    (max ((m.log2 : ℤ) + 1 + e - (n.log2 + 1 + f) - 53) (-1074)) = t := ⟨_, rfl⟩
  rw [ht]
  obtain ⟨k, hk⟩ : ∃ k, e - f - t = (k : ℕ) := Int.eq_ofNat_of_zero_le (by omega)
  rw [hk, Int.toNat_natCast]
  have hnum : (n : ℚ) ≠ 0 := by exact_mod_cast hn.ne'
  have hquotient : (((m * 2 ^ k / n : ℕ) : ℚ) + ((m * 2 ^ k % n : ℕ) : ℚ) / n) = m * 2 ^ k / n := by
    rw [eq_div_iff hnum, add_mul, div_mul_cancel₀ _ hnum]
    exact_mod_cast Nat.div_add_mod' (m * 2 ^ k) n
  have hvalue : (m * 2 ^ e / (n * 2 ^ f) : ℚ) = m * 2 ^ k / n * 2 ^ t := by
    have hexponent : e = (t + k) + f := by omega
    rw [hexponent, zpow_add₀ two_ne_zero (t + k), two_zpow_add]
    field_simp
  have hshows := shows_fraction (m * 2 ^ k / n) (Nat.mod_lt (m * 2 ^ k) hn)
  rw [hquotient] at hshows
  rw [hvalue]
  apply denotes_roundWithAccuracy hshows (by positivity)
  by_cases hleast : t ≤ -1074
  · exact .inr hleast
  · exact .inl (le_log2_div hm hn (by omega))

theorem denotes_div {u v : UnpackedFloat} {a b : ℚ} (hu : Denotes u a) (hv : Denotes v b)
    (ha : 0 < a) (hb : 0 < b) : Denotes (div Format.binary64 u v) (rounded (a / b)) := by
  rcases hu with ⟨-, rfl⟩ | ⟨m, e, hm, rfl, -, rfl⟩
  · exact absurd ha (lt_irrefl 0)
  rcases hv with ⟨-, rfl⟩ | ⟨n, f, hn, rfl, -, rfl⟩
  · exact absurd hb (lt_irrefl 0)
  exact denotes_quotient hm hn e f

theorem Denotes.unique {u v : UnpackedFloat} {q : ℚ} (hu : Denotes u q) (hv : Denotes v q) : u = v := by
  rcases hu with ⟨rfl, rfl⟩ | ⟨m, e, hm, rfl, hc, rfl⟩
  · rcases hv with ⟨rfl, -⟩ | ⟨m, e, hm, -, -, hq⟩
    · rfl
    · have : (0 : ℚ) < m * 2 ^ e := mul_pos (by exact_mod_cast hm) (two_zpow_pos e)
      linarith
  · rcases hv with ⟨-, hq⟩ | ⟨n, f, hn, rfl, hc', hq⟩
    · have : (0 : ℚ) < m * 2 ^ e := mul_pos (by exact_mod_cast hm) (two_zpow_pos e)
      linarith
    · obtain ⟨rfl, rfl⟩ := canonical_inj hc hm hc' hn hq
      rfl

end MetricWatch.Decimal
