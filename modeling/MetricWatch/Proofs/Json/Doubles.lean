import MetricWatch.Proofs.Decimal.Doubles
import MetricWatch.Proofs.Decimal.Rereading
import MetricWatch.Proofs.Json.Layout
import MetricWatch.Proofs.Json.Records

/-!
How doubles are read back. The digits that are written are rounded to the double; the reader rounds on
its way, so that it may arrive at another one nearby.
-/

namespace MetricWatch.Json

open Decimal

/-! ## The double that is read -/

namespace Number

/-- Digits are gathered for as long as they fit. -/
theorem gather_eq {n : ℕ} {ds : List ℕ} (h : n * 10 ^ ds.length + ofDigits ds < UInt64.size) :
    gather n ds = (n * 10 ^ ds.length + ofDigits ds, []) := by
  induction ds generalizing n with
  | nil =>
      rw [gather, List.length_nil, pow_zero, mul_one]
      rfl
  | cons d ds ih =>
      have hdigits : n * 10 ^ (d :: ds).length + ofDigits (d :: ds) =
          (10 * n + d) * 10 ^ ds.length + ofDigits ds := by
        have hsplit := ofDigits_append [d] ds
        have hone : ofDigits [d] = d := by simp [ofDigits]
        rw [List.singleton_append, hone] at hsplit
        rw [hsplit, List.length_cons, pow_succ]
        ring
      rw [hdigits] at h ⊢
      have hfits : 10 * n + d < UInt64.size := by
        refine lt_of_le_of_lt ?_ h
        exact (Nat.le_mul_of_pos_right _ (by positivity)).trans (Nat.le_add_right _ _)
      rw [gather, if_pos hfits, ih h]

theorem significand_eq {n : Numeral} (h : n.digits < UInt64.size) :
    significand n = (n.digits, -(n.fraction.length : ℤ)) := by
  rw [Numeral.digits, ofDigits_append] at h
  have hwhole : gather 0 n.whole = (ofDigits n.whole, []) := by
    rw [gather_eq, zero_mul, zero_add]
    rw [zero_mul, zero_add]
    refine lt_of_le_of_lt ?_ h
    exact (Nat.le_mul_of_pos_right _ (by positivity)).trans (Nat.le_add_right _ _)
  simp only [significand, hwhole, gather_eq h, Numeral.digits, ofDigits_append]
  simp

/-- A numeral whose digits fit is read as those digits, scaled. -/
theorem double?_eq {n : Numeral} (hdigits : n.digits < UInt64.size)
    (hlimit : ∀ e ∈ n.exponent, ofDigits e.digits ≤ exponentLimit)
    (hplaces : n.places.natAbs ≤ exponentLimit) :
    double? n = (scale (n.places.natAbs / 308 + 1) (UInt64.ofNat n.digits).toFloat n.places).map
      (signed n.negative) := by
  obtain ⟨negative, whole, fraction, e⟩ := n
  rw [double?, significand_eq hdigits]
  cases e with
  | none =>
      have hp : Numeral.places ⟨negative, whole, fraction, none⟩ = -(fraction.length : ℤ) := zero_sub _
      rw [hp]
  | some e =>
      have hp : Numeral.places ⟨negative, whole, fraction, some e⟩ =
          -(fraction.length : ℤ) + e.value := by
        rw [neg_add_eq_sub]
        rfl
      have hle := hlimit e rfl
      rw [hp] at hplaces ⊢
      have hclamp : clampExponent (-(fraction.length : ℤ) + e.value) =
          -(fraction.length : ℤ) + e.value := by
        rw [clampExponent]
        omega
      simp only [hle.not_gt, if_false, hclamp]

theorem beq_zero_of_holds {x : Float} {q : ℚ} (h : Holds x q) (hq : 0 < q) : (x == 0) = false := by
  have hzero : (0 : Float).toModel.unpack = .zero .positive := by rfl
  rcases h with ⟨-, rfl⟩ | ⟨m, e, hm, hx, -⟩
  · exact absurd hq (lt_irrefl 0)
  · change Float.Model.UnpackedFloat.beq x.toModel.unpack (0 : Float).toModel.unpack = false
    rw [hx, hzero]
    rfl

section Scale

variable {digits : ℕ} (hdigits : 0 < digits) (hsize : digits < UInt64.size)

include hdigits hsize

theorem first_quotient_lt : rounded (rounded digits / power 308) < 2 ^ 1024 := by
  have hone : (1 : ℚ) ≤ digits := by exact_mod_cast hdigits
  have hpower := half_le_power 308
  have hdigit := (near_rounded hone).bounds.2
  have hbound : rounded digits / power 308 ≤ (4 * UInt64.size : ℕ) := by
    have hlt : (digits : ℚ) ≤ (UInt64.size : ℕ) := by exact_mod_cast hsize.le
    rw [div_le_iff₀ (power_pos 308), Nat.cast_mul, Nat.cast_ofNat]
    nlinarith [grain_lt]
  apply rounded_lt (div_pos (rounded_natCast_pos hdigits) (power_pos 308))
  exact hbound.trans (Nat.cast_le.2 (by decide +kernel))

/-- The reader scales as `unrounded` does, and rounds once more. -/
theorem scale_eq {places : ℤ} (hlow : -616 ≤ places) (hhigh : places ≤ 308)
    (hfits : rounded (unrounded digits places) < 2 ^ 1024) :
    ∃ w, scale (places.natAbs / 308 + 1) (UInt64.ofNat digits).toFloat places = some w ∧
      Holds w (rounded (unrounded digits places)) := by
  have hx := holds_toFloat hdigits hsize
  have hpos := rounded_natCast_pos hdigits
  rw [scale]
  split
  · rename_i hone
    have hpower := holds_power hone
    split
    · rename_i hplaces
      have hnat : places.natAbs = places.toNat := by omega
      rw [unrounded, if_pos hplaces] at hfits ⊢
      rw [hnat] at hpower ⊢
      have hproduct := holds_mul hx hpower hpos (half_le_power _) hfits
      exact ⟨_, if_pos hproduct.isFinite, hproduct⟩
    · rename_i hplaces
      have hnat : places.natAbs = (-places).toNat := by omega
      rw [unrounded, if_neg hplaces, if_pos (by omega)] at hfits ⊢
      rw [hnat] at hpower ⊢
      exact ⟨_, rfl, holds_div hx hpower hpos (power_pos _) hfits⟩
  · rename_i htwo
    rw [beq_zero_of_holds hx hpos, if_neg Bool.false_ne_true, if_neg (by omega)]
    have hquotient := holds_div hx (holds_power le_rfl) hpos (power_pos 308)
      (first_quotient_lt hdigits hsize)
    have hpower := holds_power (show (places + 308).natAbs ≤ 308 by omega)
    have hnat : (places + 308).natAbs = (-places - 308).toNat := by omega
    rw [unrounded, if_neg (by omega), if_neg (by omega)] at hfits ⊢
    rw [← hnat] at hfits ⊢
    obtain ⟨steps, hsteps⟩ : ∃ steps, places.natAbs / 308 = steps + 1 :=
      ⟨places.natAbs / 308 - 1, by omega⟩
    rw [hsteps, scale, if_pos (by omega), if_neg (by omega)]
    exact ⟨_, rfl, holds_div hquotient hpower (first_quotient_pos hdigits) (power_pos _) hfits⟩

end Scale

end Number

/-- For the four greatest doubles the product stays below the limit, though what the rounding may miss
would carry it past. -/
theorem isFinite_product_top : ∀ k < 4, ∀ negative,
    0 ≤ (written negative (Magnitude.shortest ⟨2 ^ 53 - 4 + k, 971, false⟩)).places ∧
      ((UInt64.ofNat (written negative (Magnitude.shortest ⟨2 ^ 53 - 4 + k, 971, false⟩)).digits).toFloat *
        Float.ofScientific 1 false
          (written negative (Magnitude.shortest ⟨2 ^ 53 - 4 + k, 971, false⟩)).places.toNat).isFinite =
          true := by
  decide +kernel

section Positive

variable {x : Magnitude} (h : x.Positive) (negative : Bool)

include h

/-- What is written of a double lies within half a unit of it. -/
theorem abs_written_sub_le :
    |((written negative x.shortest).digits * 10 ^ (written negative x.shortest).places - x.worth : ℚ)| ≤
      2 ^ x.exponent / 2 := by
  obtain ⟨hreads, hpos, -⟩ := Magnitude.shortest_spec h
  rw [Magnitude.readsBack_iff h] at hreads
  obtain ⟨hlow, hhigh⟩ := hreads
  have hgap := x.halfGap_le
  rw [Magnitude.halfUnit] at hhigh hgap
  rw [written_worth hpos, abs_le]
  constructor
  · rcases hlow with hlow | ⟨-, hlow⟩ <;> linarith
  · rcases hhigh with hhigh | ⟨-, hhigh⟩ <;> linarith

theorem written_places_bounds :
    -616 ≤ (written negative x.shortest).places ∧ (written negative x.shortest).places ≤ 308 := by
  obtain ⟨-, hpos, hle⟩ := Magnitude.shortest_spec h
  have hnear := abs_written_sub_le h negative
  exact ⟨neg_le_places h.canonical hnear h.pos (written_digits_le hpos hle negative),
    places_le h.canonical (written_digits_pos hpos negative) hnear h.inRange⟩

theorem written_exponent_le : ∀ e ∈ (written negative x.shortest).exponent,
    ofDigits e.digits ≤ Number.exponentLimit := by
  obtain ⟨-, hpos, hle⟩ := Magnitude.shortest_spec h
  obtain ⟨hlow, hhigh⟩ := written_places_bounds h negative
  obtain ⟨extra, -, hplaces, hextra⟩ := written_spec hpos negative
  obtain ⟨count, hchars, -⟩ := digitChars_eq_figures x.shortest
  have hlength : (digitChars x.shortest.digits).length ≤ 18 :=
    (Nat.length_toDigits_le_iff (by decide) (by decide)).2 (hle.trans_lt (by decide))
  rw [hchars, List.length_append] at hlength
  have hpoint : (point x.shortest - 1).natAbs ≤ 1000 := by omega
  have hvalue := ofDigits_naturalChars (point x.shortest - 1).natAbs
  rw [naturalChars] at hvalue
  intro e he
  rw [written] at he
  split at he
  · rw [plainNumeral_exponent] at he
    cases he
  · obtain rfl := Option.some.inj he
    rw [hvalue]
    exact hpoint.trans (by decide)

theorem rounded_unrounded_lt :
    rounded (unrounded (written negative x.shortest).digits (written negative x.shortest).places) <
      2 ^ 1024 := by
  obtain ⟨-, hpos, hle⟩ := Magnitude.shortest_spec h
  have hdigits := written_digits_pos hpos negative
  by_cases htop : x.exponent = 971 ∧ 2 ^ 53 - 4 ≤ x.significand
  · obtain ⟨hexponent, hsignificand⟩ := htop
    have hbits := h.canonical.1
    have hwide : x.narrowBelow = false := by
      rw [Bool.eq_false_iff, Ne, h.narrow]
      omega
    have hx : x = ⟨2 ^ 53 - 4 + (x.significand - (2 ^ 53 - 4)), 971, false⟩ := by
      rw [← hexponent, ← hwide, Nat.add_sub_cancel' hsignificand]
    obtain ⟨hplaces, hfinite⟩ := isFinite_product_top (x.significand - (2 ^ 53 - 4)) (by omega) negative
    rw [← hx] at hplaces hfinite
    have hsize : (written negative x.shortest).digits < UInt64.size :=
      (written_digits_le hpos hle negative).trans_lt (by decide)
    have hpower := holds_power (show (written negative x.shortest).places.toNat ≤ 308 by
      have hbounds := written_places_bounds h negative
      omega)
    rw [unrounded, if_pos hplaces]
    exact rounded_mul_lt_of_isFinite (holds_toFloat hdigits hsize) hpower (rounded_natCast_pos hdigits)
      (half_le_power _) hfinite
  · apply rounded_lt (unrounded_pos hdigits _)
    have hclose := (abs_written_sub_le h negative).trans (half_unit_le _)
    obtain ⟨-, hhigh⟩ := abs_lt.1 (abs_unrounded_sub_lt h.canonical hdigits hclose)
    have hsum : (x.significand + 4 : ℚ) * 2 ^ x.exponent ≤ greatest :=
      add_four_units_le h.canonical h.inRange htop
    linarith

/-- The written digits are read as the reader rounds them. -/
theorem double?_written : ∃ y, Number.double? (written negative x.shortest) = some (signed negative y) ∧
    Holds y (rounded
      (unrounded (written negative x.shortest).digits (written negative x.shortest).places)) := by
  obtain ⟨-, hpos, hle⟩ := Magnitude.shortest_spec h
  have hsize : (written negative x.shortest).digits < UInt64.size :=
    (written_digits_le hpos hle negative).trans_lt (by decide)
  obtain ⟨hlow, hhigh⟩ := written_places_bounds h negative
  have hlimit : (written negative x.shortest).places.natAbs ≤ Number.exponentLimit := by
    rw [Number.exponentLimit]
    omega
  obtain ⟨y, hy, hholds⟩ := Number.scale_eq (written_digits_pos hpos negative) hsize hlow hhigh
    (rounded_unrounded_lt h negative)
  refine ⟨y, ?_, hholds⟩
  rw [Number.double?_eq hsize (written_exponent_le h negative) hlimit, hy, written_negative]
  rfl

end Positive

/-! ## Doubles as they are written -/

/-- The numeral that is written for a finite double. -/
def printed (x : Float) : Numeral :=
  if (Magnitude.ofFloat x).significand = 0 then ⟨isNegative x, [0], [0], none⟩
  else written (isNegative x) (Magnitude.ofFloat x).shortest

/-- The number that the text of a double is read as. -/
def reread (x : Float) : ℚ := rounded (unrounded (printed x).digits (printed x).places)

/-- What a double is read back as. -/
structure Rereads (x y : Float) : Prop where
  text : numeral .truncated ((doubleChars x).map some) = .ok (printed x, [])
  isFinite : y.isFinite = true
  sign : isNegative y = isNegative x
  worth : (Magnitude.ofFloat y).worth = reread x
  same : y = x ↔ reread x = (Magnitude.ofFloat x).worth
  near : |(Magnitude.ofFloat y).worth - (Magnitude.ofFloat x).worth| <
    5 * 2 ^ (Magnitude.ofFloat x).exponent
  /-- Nothing is rounded before the last step if the digits and the power of ten are doubles. -/
  exact : ∀ m k, m < 2 ^ 53 → (printed x).digits = m * 2 ^ k → (printed x).places.natAbs ≤ 22 → y = x

section Zero

variable {x : Float} (hx : (Magnitude.ofFloat x).significand = 0)

include hx

theorem printed_zero : printed x = ⟨isNegative x, [0], [0], none⟩ := if_pos hx

theorem worth_zero : (Magnitude.ofFloat x).worth = 0 := by
  rw [Magnitude.worth, hx, Nat.cast_zero, zero_mul]

theorem reread_zero : reread x = 0 := by
  have hdigits : (printed x).digits = 0 := by
    rw [printed_zero hx]
    rfl
  have hplaces : (printed x).places = -1 := by
    rw [printed_zero hx]
    rfl
  rw [reread, hdigits, hplaces, unrounded_eq (by rw [Nat.cast_zero, rounded_zero]) (by decide),
    Nat.cast_zero, zero_mul, rounded_zero]

end Zero

section Finite

variable {x : Float} (h : x.isFinite = true)

include h

theorem positive_of_isFinite (hx : (Magnitude.ofFloat x).significand ≠ 0) :
    (Magnitude.ofFloat x).Positive := by
  obtain ⟨hparts, hnarrow⟩ := parts_of_isFinite h
  exact ⟨hparts.canonical, hparts.inRange, Nat.pos_of_ne_zero hx, hnarrow⟩

theorem doubleChars_eq : doubleChars x = signChars (isNegative x) ++
    if (Magnitude.ofFloat x).significand = 0 then ['0', '.', '0']
    else layout.scaled (Magnitude.ofFloat x).shortest := by
  rw [doubleChars, if_pos h, Layout.float, signChars, isNegative]
  simp only [decide_eq_true_eq]
  split <;> rfl

theorem numeral_doubleChars (cut : Fault) {rest : List Symbol} (hrest : Delimited rest) :
    numeral cut ((doubleChars x).map some ++ rest) = .ok (printed x, rest) := by
  rw [doubleChars_eq h, printed]
  split
  · exact numeral_plain cut ⟨isDigits_zero, fun _ => rfl⟩ _ isDigits_zero hrest
  · rename_i hx
    obtain ⟨-, hpos, -⟩ := Magnitude.shortest_spec (positive_of_isFinite h hx)
    exact numeral_written cut _ hpos hrest

theorem text_doubleChars : numeral .truncated ((doubleChars x).map some) = .ok (printed x, []) := by
  have hnumeral := numeral_doubleChars h .truncated delimited_nil
  rwa [List.append_nil] at hnumeral

/-- The text of a double is read as that double's number, but for what is rounded on the way. -/
theorem double?_printed : ∃ y,
    Number.double? (printed x) = some (signed (isNegative x) y) ∧ Holds y (reread x) := by
  by_cases hx : (Magnitude.ofFloat x).significand = 0
  · have hread : ∀ negative, Number.double? ⟨negative, [0], [0], none⟩ = some (signed negative 0) := by
      decide +kernel
    rw [printed_zero hx, hread, reread_zero hx]
    exact ⟨0, rfl, .inl ⟨rfl, rfl⟩⟩
  · obtain ⟨y, hy, hholds⟩ := double?_written (positive_of_isFinite h hx) (isNegative x)
    rw [reread, printed, if_neg hx]
    exact ⟨y, hy, hholds⟩

theorem abs_reread_sub_lt :
    |reread x - (Magnitude.ofFloat x).worth| < 5 * 2 ^ (Magnitude.ofFloat x).exponent := by
  by_cases hx : (Magnitude.ofFloat x).significand = 0
  · rw [reread_zero hx, worth_zero hx, sub_self, abs_zero]
    exact mul_pos (by norm_num) (two_zpow_pos _)
  · have hpositive := positive_of_isFinite h hx
    obtain ⟨-, hpos, -⟩ := Magnitude.shortest_spec hpositive
    rw [reread, printed, if_neg hx]
    exact abs_rounded_unrounded_sub_lt hpositive.canonical (written_digits_pos hpos _)
      ((abs_written_sub_le hpositive _).trans (half_unit_le _))

theorem reread_eq (hdigits : rounded (printed x).digits = (printed x).digits)
    (hplaces : (printed x).places.natAbs ≤ 22) : reread x = (Magnitude.ofFloat x).worth := by
  by_cases hx : (Magnitude.ofFloat x).significand = 0
  · rw [reread_zero hx, worth_zero hx]
  · have hpositive := positive_of_isFinite h hx
    obtain ⟨hreads, hpos, -⟩ := Magnitude.shortest_spec hpositive
    rw [reread, unrounded_eq hdigits hplaces, printed, if_neg hx, written_worth hpos]
    exact Magnitude.rounded_of_readsBack hpositive hreads

theorem rereads_of_holds {y : Float} (hy : Holds y (reread x)) : Rereads x (signed (isNegative x) y) := by
  obtain ⟨m, e, hparts, hworth⟩ := hy.parts
  have hsigned : Parts (signed (isNegative x) y) (isNegative x) m e := hparts.signed
  obtain ⟨hsign, rfl, rfl⟩ := (parts_of_isFinite hsigned.isFinite).1.unique hsigned
  have hsame := worth_inj hsigned.isFinite h hsign
  rw [Magnitude.worth, ← hworth] at hsame
  refine ⟨text_doubleChars h, hsigned.isFinite, hsign, hworth.symm, hsame, ?_, ?_⟩
  · rw [Magnitude.worth, ← hworth]
    exact abs_reread_sub_lt h
  · intro m k hm hdigits hplaces
    exact hsame.2 (reread_eq h (by rw [hdigits, rounded_natCast hm]) hplaces)

theorem ofNumeral?_printed : Number.ofNumeral? (printed x) = (Number.double? (printed x)).map .double := by
  have hfraction : (!(printed x).fraction.isEmpty || (printed x).exponent.isSome) = true := by
    rw [printed]
    split
    · rfl
    · rename_i hx
      obtain ⟨-, hpos, -⟩ := Magnitude.shortest_spec (positive_of_isFinite h hx)
      exact written_isFractional hpos _
  rw [Number.ofNumeral?, if_pos hfraction]

theorem begins_doubleChars : ∃ c cs, doubleChars x = c :: cs ∧ isSpace (some c) = false ∧
    beginsNumber (some c) = true := by
  obtain ⟨s, after, hinput, hspace, hbegins⟩ := begins_of_numeral (text_doubleChars h)
  obtain ⟨c, cs, hchars, rfl, -⟩ := List.map_eq_cons_iff.1 hinput
  exact ⟨c, cs, hchars, hspace, hbegins⟩

/-- A double is read back as one nearby. -/
theorem reads_double : ∃ y, Reads double (doubleChars x) y ∧ Rereads x y := by
  obtain ⟨y, hy, hholds⟩ := double?_printed h
  refine ⟨_, ?_, rereads_of_holds h hholds⟩
  intro rest hrest
  have hnumeral := numeral_doubleChars h .truncated hrest
  have hnumber : Number.ofNumeral? (printed x) = some (.double (signed (isNegative x) y)) := by
    rw [ofNumeral?_printed h, hy]
    rfl
  obtain ⟨c, cs, hchars, hspace, hbegins⟩ := begins_doubleChars h
  rw [hchars, List.map_cons, List.cons_append] at hnumeral ⊢
  rw [double, numberAs, skipSpace_of_not_space hspace]
  simp only [hbegins, if_true, number, hnumeral, ok_bind, hnumber]
  rfl

end Finite

/-- A double that may be absent is read back as absent or as one nearby. -/
theorem reads_optional_double {x : Option Float} (h : ∀ v ∈ x, v.isFinite = true) :
    ∃ y, Reads (optional double) (optionChars doubleChars x) y ∧ Option.Rel Rereads x y := by
  cases x with
  | none => exact ⟨none, reads_optional_null double, .none⟩
  | some x =>
      obtain ⟨y, hy, hrereads⟩ := reads_double (h x rfl)
      refine ⟨some y, reads_optional hy ?_, .some hrereads⟩
      obtain ⟨c, cs, hchars, hspace, hbegins⟩ := begins_doubleChars (h x rfl)
      refine ⟨c, cs, hchars, hspace, ?_⟩
      rintro rfl
      exact absurd hbegins (by decide)

end MetricWatch.Json
