import MetricWatch.Decimal.Numeral
import MetricWatch.Proofs.Decimal.Shortest
import MetricWatch.Proofs.Decimal.Unpacked

/-!
Doubles as rationals: what their bits stand for, and that their arithmetic is that of the rationals,
rounded.
-/

namespace MetricWatch.Decimal

open Float.Model (Format UnpackedFloat)
open Float.Model.UnpackedFloat

/-! ## The bits of a double -/

/-- The sign of a double. -/
def signOf (x : Float.Model) : Sign := if x.toBits.toNat / 2 ^ 63 = 1 then .negative else .positive

/-- The bits of a double that hold its exponent. -/
def exponentField (x : Float.Model) : ℕ := x.toBits.toNat / 2 ^ 52 % 2 ^ 11

/-- The bits of a double that hold its significand. -/
def fractionField (x : Float.Model) : ℕ := x.toBits.toNat % 2 ^ 52

theorem toNat_unpackMantissa (x : Float.Model) :
    (@unpackMantissa Format.binary64 x.toBits.toBitVec).toNat = fractionField x := by
  rw [unpackMantissa_def, BitVec.extractLsb'_toNat]
  rfl

theorem toNat_unpackExponent (x : Float.Model) :
    (@unpackExponent Format.binary64 x.toBits.toBitVec).toNat = exponentField x := by
  rw [unpackExponent_def, BitVec.extractLsb'_toNat, Nat.shiftRight_eq_div_pow]
  rfl

theorem ofBitVec_unpackSign (x : Float.Model) :
    Sign.ofBitVec (@unpackSign Format.binary64 x.toBits.toBitVec) = signOf x := by
  have hlt : x.toBits.toNat < 2 ^ 64 := x.toBits.toNat_lt
  have hsign : (@unpackSign Format.binary64 x.toBits.toBitVec).toNat =
      x.toBits.toNat / 2 ^ 63 := by
    rw [unpackSign_def, BitVec.extractLsb'_toNat, Nat.shiftRight_eq_div_pow]
    change x.toBits.toNat / 2 ^ 63 % 2 ^ 1 = _
    omega
  rw [Sign.ofBitVec, signOf, ← hsign]
  generalize @unpackSign Format.binary64 x.toBits.toBitVec = b
  have hbit : ∀ b : BitVec 1, b = 0#1 ∨ b = 1#1 := by decide
  rcases hbit b with rfl | rfl <;> rfl

/-- The four kinds of bit patterns. -/
theorem unpack_cases (x : Float.Model) :
    exponentField x = 2047 ∧ x.unpack.isFinite = false ∨
    exponentField x = 0 ∧ fractionField x = 0 ∧ x.unpack = .zero (signOf x) ∨
    (exponentField x = 0 ∧ ∃ h, x.unpack = .finite (signOf x) (fractionField x) (-1074) h) ∨
    0 < exponentField x ∧ exponentField x < 2047 ∧ ∃ h,
      x.unpack = .finite (signOf x) (2 ^ 52 + fractionField x) (exponentField x - 1075) h := by
  have hexponent := toNat_unpackExponent x
  have hfraction := toNat_unpackMantissa x
  have hsign := ofBitVec_unpackSign x
  have hbits : exponentField x < 2 ^ 11 := Nat.mod_lt _ (by decide)
  rw [Float.Model.unpack, UnpackedFloat.unpack]
  split
  · rename_i hspecial
    have hspecial := congrArg BitVec.toNat hspecial
    rw [hexponent] at hspecial
    refine .inl ⟨hspecial, ?_⟩
    split <;> rfl
  · rename_i hfinite
    right
    split
    · rename_i hzero
      have hzero := congrArg BitVec.toNat hzero
      rw [hexponent] at hzero
      split
      · rename_i hnone
        have hnone := congrArg BitVec.toNat hnone
        rw [hfraction] at hnone
        exact .inl ⟨hzero, hnone, congrArg _ hsign⟩
      · rename_i hsome
        have hpos : 0 < fractionField x := by
          rw [← hfraction]
          exact Nat.pos_of_ne_zero fun h => hsome (BitVec.eq_of_toNat_eq h)
        refine .inr (.inl ⟨hzero, hpos, ?_⟩)
        simp only [UnpackedFloat.finite.injEq]
        refine ⟨hsign, hfraction, ?_⟩
        rw [hexponent, hzero]
        rfl
    · rename_i hnormal
      have hpos : exponentField x ≠ 0 := by
        rw [← hexponent]
        exact fun h => hnormal (BitVec.eq_of_toNat_eq h)
      have hlt : exponentField x ≠ 2047 := by
        rw [← hexponent]
        exact fun h => hfinite (BitVec.eq_of_toNat_eq h)
      refine .inr (.inr ⟨by omega, by omega, by positivity, ?_⟩)
      simp only [UnpackedFloat.finite.injEq]
      refine ⟨hsign, ?_, ?_⟩
      · rw [BitVec.toNat_append, ← Nat.shiftLeft_add_eq_or_of_lt (BitVec.isLt _), hfraction]
        rfl
      · rw [hexponent]
        rfl

/-- The significand and the exponent of a double that is not zero are canonical, and stand in its bits. -/
theorem canonical_of_unpack {x : Float.Model} {s : Sign} {m : ℕ} {e : ℤ} {hm : 0 < m}
    (h : x.unpack = .finite s m e hm) :
    Canonical m e ∧ e ≤ 971 ∧ s = signOf x ∧
      (exponentField x = 0 ∧ m = fractionField x ∧ e = -1074 ∨
        0 < exponentField x ∧ m = 2 ^ 52 + fractionField x ∧ e = exponentField x - 1075) := by
  have hbits : fractionField x < 2 ^ 52 := Nat.mod_lt _ (by decide)
  rcases unpack_cases x with ⟨-, hx⟩ | ⟨-, -, hx⟩ | ⟨hzero, _, hx⟩ | ⟨hpos, hlt, _, hx⟩ <;> rw [h] at hx
  · cases hx
  · cases hx
  · obtain ⟨rfl, rfl, rfl⟩ := UnpackedFloat.finite.inj hx
    exact ⟨⟨by omega, le_rfl, .inr rfl⟩, by decide, rfl, .inl ⟨hzero, rfl, rfl⟩⟩
  · obtain ⟨rfl, rfl, rfl⟩ := UnpackedFloat.finite.inj hx
    exact ⟨⟨by omega, by omega, .inl (by omega)⟩, by omega, rfl, .inr ⟨hpos, rfl, rfl⟩⟩

theorem toBitVec_pack {s : Sign} {m : ℕ} {e : ℤ} (hm : 0 < m) (h : Canonical m e) (he : e ≤ 971) :
    (Float.Model.pack (.finite s m e hm)).toBits.toBitVec = packComponents Format.binary64 s
      (BitVec.ofNat 11 (if 2 ^ 52 ≤ m then (e + 1075).toNat else 0)) (BitVec.ofNat 52 m) := by
  obtain ⟨hbits, hleast, -⟩ := h
  have hbiased : (e + Format.binary64.exponentBias + Format.binary64.mantissaBitsWithoutImplicit).toNat =
      (e + 1075).toNat := by
    change (e + 1023 + 52).toNat = _
    omega
  have hlog : m.log2 + 1 = Format.binary64.mantissaBits ↔ 2 ^ 52 ≤ m := by
    change m.log2 + 1 = 53 ↔ _
    have hlt := (Nat.log2_lt hm.ne').2 hbits
    rw [← Nat.le_log2 hm.ne']
    omega
  have hfits : ¬ 2 ^ Format.binary64.exponentBits ≤ (e + 1075).toNat + 1 := by
    change ¬ 2048 ≤ _
    omega
  change UnpackedFloat.pack Format.binary64 (.finite s m e hm) = _
  simp only [UnpackedFloat.pack, hbiased, hfits, hlog, if_false]
  split <;> rfl

/-- Packing loses nothing of a double that is not too large. -/
theorem unpack_pack {s : Sign} {m : ℕ} {e : ℤ} (hm : 0 < m) (h : Canonical m e) (he : e ≤ 971) :
    (Float.Model.pack (.finite s m e hm)).unpack = .finite s m e hm := by
  have hpacked := @toBitVec_pack s m e hm h he
  have hexponent := toNat_unpackExponent (Float.Model.pack (.finite s m e hm))
  have hfraction := toNat_unpackMantissa (Float.Model.pack (.finite s m e hm))
  have hsign := ofBitVec_unpackSign (Float.Model.pack (.finite s m e hm))
  rw [hpacked, unpackExponent_packComponents, BitVec.toNat_ofNat] at hexponent
  change _ % 2 ^ 11 = _ at hexponent
  rw [hpacked, unpackMantissa_packComponents, BitVec.toNat_ofNat] at hfraction
  change _ % 2 ^ 52 = _ at hfraction
  rw [hpacked, unpackSign_packComponents, Sign.ofBitVec_toBitVec] at hsign
  obtain ⟨hbits, hleast, hnormal⟩ := h
  rcases unpack_cases (.pack (.finite s m e hm)) with
    ⟨hx, -⟩ | ⟨hx, hzero, -⟩ | ⟨hx, _, hu⟩ | ⟨hx, -, _, hu⟩
  · split at hexponent <;> omega
  · split at hexponent <;> omega
  · rw [hu]
    simp only [UnpackedFloat.finite.injEq]
    refine ⟨hsign.symm, ?_, ?_⟩ <;> split at hexponent <;> omega
  · rw [hu]
    simp only [UnpackedFloat.finite.injEq]
    refine ⟨hsign.symm, ?_, ?_⟩ <;> split at hexponent <;> omega

/-! ## Doubles as rationals -/

/-- Whether a double is the given number, which is not negative. -/
def Holds (x : Float) (q : ℚ) : Prop := Denotes x.toModel.unpack q

theorem eq_of_unpack {x y : Float} (h : x.toModel.unpack = y.toModel.unpack) : x = y := by
  have hbits := (unpack_inj_of_valid x.toModel.valid y.toModel.valid).1 h
  exact Float.toBits_inj.1 (UInt64.toBitVec_inj.1 hbits)

theorem Holds.unique {x y : Float} {q : ℚ} (hx : Holds x q) (hy : Holds y q) : x = y :=
  eq_of_unpack (Denotes.unique hx hy)

theorem Holds.isFinite {x : Float} {q : ℚ} (hx : Holds x q) : x.isFinite = true := by
  change x.toModel.unpack.isFinite = true
  rcases hx with ⟨hx, -⟩ | ⟨m, e, hm, hx, -⟩ <;> rw [hx] <;> rfl

/-- A double that is not too large is packed as it is. -/
theorem holds_pack {u : UnpackedFloat} {q : ℚ} (h : Denotes u q) (hq : q < 2 ^ 1024) :
    Holds (.ofModel (.pack u)) q := by
  rcases h with ⟨rfl, rfl⟩ | ⟨m, e, hm, rfl, hc, rfl⟩
  · exact .inl ⟨unpack_packedZero, rfl⟩
  · have he : e ≤ 971 := by
      rcases hc.2.2 with hnormal | rfl
      · have hle : (2 ^ (52 + e) : ℚ) ≤ m * 2 ^ e := by
          rw [zpow_add₀ two_ne_zero]
          exact mul_le_mul_of_nonneg_right (by exact_mod_cast hnormal) (two_zpow_pos e).le
        have hlt := hle.trans_lt hq
        rw [← zpow_natCast, zpow_lt_zpow_iff_right₀ one_lt_two] at hlt
        push_cast at hlt
        omega
      · decide
    rw [Holds, unpack_pack hm hc he]
    exact .inr ⟨m, e, hm, rfl, hc, rfl⟩

theorem le_of_canonical {m : ℕ} {e : ℤ} (h : Canonical m e) (hlarge : (2 ^ 1024 : ℚ) ≤ m * 2 ^ e) :
    972 ≤ e := by
  have hlt : (m * 2 ^ e : ℚ) < 2 ^ (e + (53 : ℕ)) := by
    rw [two_zpow_add]
    exact mul_lt_mul_of_pos_right (by exact_mod_cast h.1) (two_zpow_pos e)
  have hlt := hlarge.trans_lt hlt
  rw [← zpow_natCast, zpow_lt_zpow_iff_right₀ one_lt_two] at hlt
  push_cast at hlt
  omega

/-- A double that is too large is packed as an infinity. -/
theorem pack_of_large {u : UnpackedFloat} {q : ℚ} (h : Denotes u q) (hlarge : 2 ^ 1024 ≤ q) :
    Float.ofModel (.pack u) = infinity := by
  rcases h with ⟨-, rfl⟩ | ⟨m, e, hm, rfl, hc, rfl⟩
  · exact absurd hlarge (by norm_num)
  · have he := le_of_canonical hc hlarge
    have hbiased : 2 ^ Format.binary64.exponentBits ≤
        (e + Format.binary64.exponentBias + Format.binary64.mantissaBitsWithoutImplicit).toNat + 1 := by
      change 2048 ≤ (e + 1023 + 52).toNat + 1
      omega
    have hbits : (Float.Model.pack (.finite .positive m e hm)).toBits.toBitVec =
        packedInfinity Format.binary64 .positive := by
      change UnpackedFloat.pack Format.binary64 (.finite .positive m e hm) = _
      simp only [UnpackedFloat.pack, hbiased, if_true]
    have hinfinity : infinity.toBits.toBitVec = packedInfinity Format.binary64 .positive := by decide
    exact Float.toBits_inj.1 (UInt64.toBitVec_inj.1 (hbits.trans hinfinity.symm))

theorem lt_of_isFinite_pack {u : UnpackedFloat} {q : ℚ} (h : Denotes u q)
    (hfinite : (Float.ofModel (.pack u)).isFinite = true) : q < 2 ^ 1024 := by
  by_contra hlarge
  rw [pack_of_large h (not_lt.1 hlarge)] at hfinite
  exact absurd hfinite (by decide)

/-! ## Operations -/

theorem holds_mul {x y : Float} {a b : ℚ} (hx : Holds x a) (hy : Holds y b) (ha : 0 < a)
    (hb : 1 / 2 ≤ b) (hlt : rounded (a * b) < 2 ^ 1024) : Holds (x * y) (rounded (a * b)) :=
  holds_pack (denotes_mul hx hy ha hb) hlt

theorem rounded_mul_lt_of_isFinite {x y : Float} {a b : ℚ} (hx : Holds x a) (hy : Holds y b)
    (ha : 0 < a) (hb : 1 / 2 ≤ b) (hfinite : (x * y).isFinite = true) : rounded (a * b) < 2 ^ 1024 :=
  lt_of_isFinite_pack (denotes_mul hx hy ha hb) hfinite

theorem holds_div {x y : Float} {a b : ℚ} (hx : Holds x a) (hy : Holds y b) (ha : 0 < a) (hb : 0 < b)
    (hlt : rounded (a / b) < 2 ^ 1024) : Holds (x / y) (rounded (a / b)) :=
  holds_pack (denotes_div hx hy ha hb) hlt

theorem holds_toFloat {n : ℕ} (hn : 0 < n) (hlt : n < UInt64.size) :
    Holds (UInt64.ofNat n).toFloat (rounded n) := by
  have hword : (UInt64.ofNat n).toNat = n := by
    rw [UInt64.toNat_ofNat']
    exact Nat.mod_eq_of_lt hlt
  have hround := denotes_round hn 0
  rw [zpow_zero, mul_one] at hround
  apply holds_pack
  · have hcompare : compare (n : ℤ) 0 = .gt := Int.compare_eq_gt.2 (by exact_mod_cast hn)
    rw [ofUInt64, ofNat, ofInt, hword, UnpackedFloat.normalize, hcompare]
    exact hround
  · apply rounded_lt (by exact_mod_cast hn)
    exact_mod_cast hlt.le.trans (by decide +kernel : UInt64.size ≤ greatest)

/-- The small powers of ten come out of a table. -/
theorem ofScientific_one (k : ℕ) :
    Float.ofScientific 1 false k = .ofModel (Float.Model.ofScientific 1 k) := by
  have htable : ∀ k < 23, Float.ofScientific 1 false k = .ofModel (Float.Model.ofScientific 1 k) := by
    decide +kernel
  by_cases hk : k < 23
  · exact htable k hk
  · rw [Float.ofScientific, dif_neg (by omega)]
    rfl

/-- A decimal whose power of ten is not out of all proportion is rounded once. -/
theorem denotes_ofScientific {m : ℕ} (hm : 0 < m) {e : ℤ} (hlow : -(2 ^ 11 + m.log2) ≤ e)
    (hhigh : e ≤ 2 ^ 11) :
    Denotes (ofScientific Format.binary64 m e) (rounded (m * 10 ^ e)) := by
  have hbelow : ¬ e < -((2 ^ Format.binary64.exponentBits : ℤ) + m.log2) := not_lt.2 hlow
  have habove : ¬ (2 ^ Format.binary64.exponentBits : ℤ) < e := not_lt.2 hhigh
  rw [ofScientific, dif_neg hm.ne', if_neg habove, if_neg hbelow]
  split
  · rename_i hnonneg
    obtain ⟨k, rfl⟩ := Int.eq_ofNat_of_zero_le hnonneg
    have hshift : m <<< Format.binary64.mantissaBits = m * 2 ^ 53 := Nat.shiftLeft_eq _ _
    have hlog := @le_log2_mul (m * 2 ^ 53) (10 ^ k) 53 0
      (Nat.le_mul_of_pos_left _ hm) (Nat.one_le_pow _ _ (by decide))
    have hvalue : (m * 10 ^ (k : ℤ) : ℚ) =
        (m * 2 ^ 53 : ℕ) * 2 ^ (-53 : ℤ) * ((10 ^ k : ℕ) * 2 ^ (0 : ℤ)) := by
      rw [zpow_natCast, zpow_zero, mul_one, zpow_neg]
      push_cast
      field_simp
    rw [hvalue]
    simp only [hshift, Int.toNat_natCast]
    exact denotes_product _ _ _ _ (by omega)
  · rename_i hneg
    obtain ⟨k, rfl⟩ : ∃ k : ℕ, e = -k := ⟨e.natAbs, by omega⟩
    have hvalue : (m * 10 ^ (-(k : ℤ)) : ℚ) = m * 2 ^ (0 : ℤ) / ((10 ^ k : ℕ) * 2 ^ (0 : ℤ)) := by
      rw [zpow_neg, zpow_natCast, zpow_zero, mul_one, mul_one, ← div_eq_mul_inv]
      push_cast
      rfl
    have hpower : (-(-(k : ℤ))).toNat = k := by omega
    rw [hvalue]
    simp only [hpower]
    exact denotes_quotient _ _ _ _

theorem holds_power {k : ℕ} (hk : k ≤ 308) : Holds (Float.ofScientific 1 false k) (rounded (10 ^ k)) := by
  rw [ofScientific_one]
  apply holds_pack
  · have hdenotes := @denotes_ofScientific 1 one_pos k (by omega) (by omega)
    rwa [Nat.cast_one, one_mul, zpow_natCast] at hdenotes
  · apply rounded_lt (by positivity)
    have hle : 10 ^ k ≤ greatest :=
      (Nat.pow_le_pow_right (by decide) hk).trans (by decide +kernel)
    exact_mod_cast hle

/-! ## Signs -/

/-- Whether a double has a minus. -/
def isNegative (x : Float) : Bool := x.toBits.toNat / Nat.pow 2 63 = 1

/-- The sign that a text gives a double. -/
def textSign (negative : Bool) : Sign := if negative then .negative else .positive

/-- Whether a double is made of a sign, a significand and an exponent. -/
structure Parts (x : Float) (negative : Bool) (m : ℕ) (e : ℤ) : Prop where
  canonical : Canonical m e
  inRange : e ≤ 971
  zero : m = 0 → x.toModel.unpack = .zero (textSign negative)
  finite : ∀ h : 0 < m, x.toModel.unpack = .finite (textSign negative) m e h

theorem textSign_isNegative (x : Float) : textSign (isNegative x) = signOf x.toModel := by
  rw [textSign, isNegative, signOf]
  simp only [decide_eq_true_eq]
  rfl

theorem parts_of_isFinite {x : Float} (h : x.isFinite = true) :
    Parts x (isNegative x) (Magnitude.ofFloat x).significand (Magnitude.ofFloat x).exponent ∧
      ((Magnitude.ofFloat x).narrowBelow = true ↔
        (Magnitude.ofFloat x).significand = 2 ^ 52 ∧ -1074 < (Magnitude.ofFloat x).exponent) := by
  have hmagnitude : Magnitude.ofFloat x =
      if exponentField x.toModel = 0 then ⟨fractionField x.toModel, -1074, false⟩
      else ⟨2 ^ 52 + fractionField x.toModel, exponentField x.toModel - 1075,
        fractionField x.toModel = 0 && 1 < exponentField x.toModel⟩ := rfl
  have hbits : fractionField x.toModel < 2 ^ 52 := Nat.mod_lt _ (by decide)
  change x.toModel.unpack.isFinite = true at h
  rw [hmagnitude]
  rcases unpack_cases x.toModel with
    ⟨-, hx⟩ | ⟨hzero, hfraction, hx⟩ | ⟨hzero, hpos, hx⟩ | ⟨hpos, hlt, hsome, hx⟩
  · rw [hx] at h
    cases h
  · rw [if_pos hzero, hfraction]
    dsimp only
    rw [← textSign_isNegative] at hx
    exact ⟨⟨⟨by decide, le_rfl, .inr rfl⟩, by decide, fun _ => hx, nofun⟩, by simp⟩
  · rw [if_pos hzero]
    dsimp only
    rw [← textSign_isNegative] at hx
    exact ⟨⟨⟨by omega, le_rfl, .inr rfl⟩, by decide, fun h => absurd h hpos.ne', fun _ => hx⟩, by simp⟩
  · rw [if_neg hpos.ne']
    dsimp only
    rw [← textSign_isNegative] at hx
    refine ⟨⟨⟨by omega, by omega, .inl (by omega)⟩, by omega, fun h => absurd h hsome.ne',
      fun _ => hx⟩, ?_⟩
    simp only [Bool.and_eq_true, decide_eq_true_eq]
    omega

namespace Parts

variable {x : Float} {negative : Bool} {m : ℕ} {e : ℤ}

theorem isFinite (h : Parts x negative m e) : x.isFinite = true := by
  change x.toModel.unpack.isFinite = true
  rcases Nat.eq_zero_or_pos m with hm | hm
  · rw [h.zero hm]
    rfl
  · rw [h.finite hm]
    rfl

theorem congr {y : Float} (hx : Parts x negative m e) (hy : Parts y negative m e) : x = y := by
  apply eq_of_unpack
  rcases Nat.eq_zero_or_pos m with hm | hm
  · rw [hx.zero hm, hy.zero hm]
  · rw [hx.finite hm, hy.finite hm]

theorem unique {negative' : Bool} {n : ℕ} {f : ℤ} (h : Parts x negative m e)
    (h' : Parts x negative' n f) : negative = negative' ∧ m = n ∧ e = f := by
  have hsign : textSign negative = textSign negative' → negative = negative' := by
    cases negative <;> cases negative' <;> first | exact fun _ => rfl | exact nofun
  rcases Nat.eq_zero_or_pos m with rfl | hm <;> rcases Nat.eq_zero_or_pos n with rfl | hn
  · have hzero := (h.zero rfl).symm.trans (h'.zero rfl)
    refine ⟨hsign (UnpackedFloat.zero.inj hzero), rfl, ?_⟩
    have he := h.canonical.2.2
    have hf := h'.canonical.2.2
    omega
  · have hmixed := (h.zero rfl).symm.trans (h'.finite hn)
    cases hmixed
  · have hmixed := (h.finite hm).symm.trans (h'.zero rfl)
    cases hmixed
  · obtain ⟨hs, rfl, rfl⟩ := UnpackedFloat.finite.inj ((h.finite hm).symm.trans (h'.finite hn))
    exact ⟨hsign hs, rfl, rfl⟩

theorem holds (h : Parts x false m e) : Holds x (m * 2 ^ e) := by
  rcases Nat.eq_zero_or_pos m with rfl | hm
  · exact .inl ⟨h.zero rfl, by rw [Nat.cast_zero, zero_mul]⟩
  · exact .inr ⟨m, e, hm, h.finite hm, h.canonical, rfl⟩

theorem neg (h : Parts x negative m e) : Parts (-x) (!negative) m e := by
  have hsign : -textSign negative = textSign (!negative) := by cases negative <;> rfl
  refine ⟨h.canonical, h.inRange, fun hm => ?_, fun hm => ?_⟩ <;>
    change (Float.Model.pack x.toModel.unpack.neg).unpack = _
  · rw [h.zero hm, ← hsign]
    exact unpack_packedZero
  · rw [h.finite hm, ← hsign]
    exact unpack_pack hm h.canonical h.inRange

theorem signed (h : Parts x false m e) : Parts (signed negative x) negative m e := by
  cases negative with
  | false => exact h
  | true => exact h.neg

/-- Every finite double is one without a minus that has been given a sign. -/
theorem exists_signed (h : Parts x negative m e) :
    ∃ y, Parts y false m e ∧ x = Decimal.signed negative y := by
  cases negative with
  | false => exact ⟨x, h, rfl⟩
  | true => exact ⟨-x, h.neg, h.congr h.neg.neg⟩

end Parts

theorem Holds.parts {x : Float} {q : ℚ} (h : Holds x q) : ∃ m e, Parts x false m e ∧ q = m * 2 ^ e := by
  rcases h with ⟨hx, rfl⟩ | ⟨m, e, hm, hx, hc, rfl⟩
  · refine ⟨0, -1074, ⟨⟨by decide, le_rfl, .inr rfl⟩, by decide, fun _ => hx, nofun⟩, ?_⟩
    rw [Nat.cast_zero, zero_mul]
  · exact ⟨m, e, ⟨hc, (canonical_of_unpack hx).2.1, fun h => absurd h hm.ne', fun _ => hx⟩, rfl⟩

/-- Finite doubles of one sign and one absolute value are the same. -/
theorem worth_inj {x y : Float} (hy : y.isFinite = true) (hx : x.isFinite = true)
    (hsign : isNegative y = isNegative x) :
    y = x ↔ (Magnitude.ofFloat y).worth = (Magnitude.ofFloat x).worth := by
  refine ⟨fun h => by rw [h], fun h => ?_⟩
  obtain ⟨x', hx', hxx'⟩ := (parts_of_isFinite hx).1.exists_signed
  obtain ⟨y', hy', hyy'⟩ := (parts_of_isFinite hy).1.exists_signed
  have hworth := hy'.holds
  rw [← Magnitude.worth, h] at hworth
  rw [hyy', hworth.unique hx'.holds, hsign, ← hxx']

end MetricWatch.Decimal
