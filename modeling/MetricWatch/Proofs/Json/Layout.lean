import MetricWatch.Proofs.Decimal.Shortest
import MetricWatch.Proofs.Json.Numerals

/-!
How a decimal is laid out in a text. Whichever form is taken, the digits and the place of the point say
the decimal itself, and the text is read as a numeral of those digits.
-/

namespace MetricWatch.Decimal

theorem foldl_digits (n : ℕ) (ds : List ℕ) :
    ds.foldl (fun n d => 10 * n + d) n = n * 10 ^ ds.length + ofDigits ds := by
  induction ds using List.reverseRecOn with
  | nil => simp [ofDigits]
  | append_singleton ds d ih =>
      rw [ofDigits, List.foldl_append, List.foldl_append, ih, List.length_append, pow_add]
      simp only [List.foldl_cons, List.foldl_nil, List.length_singleton, pow_one, ofDigits]
      ring

theorem ofDigits_append (xs ys : List ℕ) :
    ofDigits (xs ++ ys) = ofDigits xs * 10 ^ ys.length + ofDigits ys := by
  rw [ofDigits, List.foldl_append, foldl_digits]
  rfl

theorem ofDigits_replicate_zero (count : ℕ) : ofDigits (List.replicate count 0) = 0 := by
  induction count with
  | zero => rfl
  | succ count ih =>
      rw [List.replicate_succ', ofDigits_append, ih]
      rfl

theorem ofDigits_lt {ds : List ℕ} (h : ∀ d ∈ ds, d < 10) : ofDigits ds < 10 ^ ds.length := by
  induction ds using List.reverseRecOn with
  | nil => decide
  | append_singleton ds d ih =>
      have hd := h d (List.mem_append_right _ (List.mem_singleton_self d))
      have hds := ih fun x hx => h x (List.mem_append_left _ hx)
      have hlast : ofDigits [d] = d := by simp [ofDigits]
      rw [ofDigits_append, List.length_append, pow_add, hlast, List.length_singleton, pow_one]
      omega

theorem dropTrailingZeros_concat (cs : List Char) (c : Char) :
    dropTrailingZeros (cs ++ [c]) = if c = '0' then dropTrailingZeros cs else cs ++ [c] := by
  rw [dropTrailingZeros, List.reverse_append, List.reverse_singleton, List.singleton_append,
    List.dropWhile_cons]
  by_cases hc : c = '0'
  · simp only [hc, decide_true, if_true]
    rfl
  · simp only [hc, decide_false, Bool.false_eq_true, if_false, List.reverse_cons, List.reverse_reverse]

/-- What is dropped are zeros. -/
theorem exists_append_zeros (cs : List Char) :
    ∃ count, cs = dropTrailingZeros cs ++ List.replicate count '0' := by
  induction cs using List.reverseRecOn with
  | nil => exact ⟨0, rfl⟩
  | append_singleton cs c ih =>
      rw [dropTrailingZeros_concat]
      split
      · rename_i hc
        obtain ⟨count, hcount⟩ := ih
        refine ⟨count + 1, ?_⟩
        rw [List.replicate_succ', ← List.append_assoc, ← hcount, hc]
      · exact ⟨0, by rw [List.replicate_zero, List.append_nil]⟩

namespace Numeral

/-- The digits of a numeral as one whole number. -/
def digits (n : Numeral) : ℕ := ofDigits (n.whole ++ n.fraction)

/-- The power of ten that the digits of a numeral count. -/
def places (n : Numeral) : ℤ := (n.exponent.map Exponent.value).getD 0 - n.fraction.length

end Numeral

end MetricWatch.Decimal

namespace MetricWatch.Json

open Decimal

/-! ## The numeral that is written -/

/-- The digits that are written of a decimal. -/
def figures (d : Scaled) : List Char := dropTrailingZeros (digitChars d.digits)

/-- Where the point stands before the first digit of a decimal. -/
def point (d : Scaled) : ℤ := ((digitChars d.digits).length : ℤ) + d.exponent

/-- The numeral of `0.digits · 10 ^ point` without an exponent. -/
def plainNumeral (negative : Bool) (digits : List ℕ) (point : ℤ) : Numeral :=
  if point ≤ 0 then ⟨negative, [0], List.replicate (-point).toNat 0 ++ digits, none⟩
  else if digits.length ≤ point.toNat then
    ⟨negative, digits ++ List.replicate (point.toNat - digits.length) 0, [0], none⟩
  else ⟨negative, digits.take point.toNat, digits.drop point.toNat, none⟩

/-- The numeral of `0.digits · 10 ^ point` with an exponent. -/
def exponentNumeral (negative : Bool) (digits : List ℕ) (point : ℤ) : Numeral :=
  ⟨negative, digits.take 1, digits.drop 1,
    some ⟨decide (point - 1 < 0), (digitChars (point - 1).natAbs).map digitValue⟩⟩

/-- The numeral that is written for a decimal. -/
def written (negative : Bool) (d : Scaled) : Numeral :=
  if layout.plainFrom ≤ point d - 1 ∧ point d - 1 < layout.plainBelow then
    plainNumeral negative ((figures d).map digitValue) (point d)
  else exponentNumeral negative ((figures d).map digitValue) (point d)

theorem plainNumeral_negative (negative : Bool) (digits : List ℕ) (point : ℤ) :
    (plainNumeral negative digits point).negative = negative := by
  rw [plainNumeral]
  split
  · rfl
  · split <;> rfl

theorem plainNumeral_exponent (negative : Bool) (digits : List ℕ) (point : ℤ) :
    (plainNumeral negative digits point).exponent = none := by
  rw [plainNumeral]
  split
  · rfl
  · split <;> rfl

theorem written_negative (negative : Bool) (d : Scaled) : (written negative d).negative = negative := by
  rw [written]
  split
  · exact plainNumeral_negative _ _ _
  · rfl

/-- The number that the written digits make. -/
def figuresValue (d : Scaled) : ℕ := ofDigits ((figures d).map digitValue)

theorem digitChars_eq_figures (d : Scaled) :
    ∃ count, digitChars d.digits = figures d ++ List.replicate count '0' ∧
      d.digits = figuresValue d * 10 ^ count ∧
      point d = ((figures d).length : ℤ) + count + d.exponent := by
  obtain ⟨count, hcount⟩ := exists_append_zeros (digitChars d.digits)
  refine ⟨count, hcount, ?_, ?_⟩
  · have hvalue := ofDigits_naturalChars d.digits
    rw [naturalChars, hcount, List.map_append, ofDigits_append, List.map_replicate,
      List.length_replicate] at hvalue
    rw [← hvalue]
    have hzero : digitValue '0' = 0 := rfl
    rw [hzero, ofDigits_replicate_zero, add_zero]
    rfl
  · rw [point, hcount, List.length_append, List.length_replicate]
    push_cast
    rfl

theorem figuresValue_pos {d : Scaled} (hd : 0 < d.digits) : 0 < figuresValue d := by
  obtain ⟨count, -, hdigits, -⟩ := digitChars_eq_figures d
  rw [hdigits] at hd
  exact Nat.pos_of_mul_pos_right hd

theorem length_figures_pos {d : Scaled} (hd : 0 < d.digits) : 0 < (figures d).length := by
  refine List.length_pos_of_ne_nil fun hnil => (figuresValue_pos hd).ne' ?_
  rw [figuresValue, hnil]
  rfl

/-- What is written has a fraction or an exponent, so that it is not taken for a whole number. -/
theorem written_isFractional {d : Scaled} (hd : 0 < d.digits) (negative : Bool) :
    (!(written negative d).fraction.isEmpty || (written negative d).exponent.isSome) = true := by
  have hne : (figures d).map digitValue ≠ [] := by
    rw [Ne, List.map_eq_nil_iff]
    exact List.ne_nil_of_length_pos (length_figures_pos hd)
  rw [written]
  split
  · rw [Bool.or_eq_true, Bool.not_eq_true', List.isEmpty_eq_false_iff]
    left
    rw [plainNumeral]
    split
    · exact List.append_ne_nil_of_right_ne_nil _ hne
    · split
      · exact List.cons_ne_nil _ _
      · rw [Ne, List.drop_eq_nil_iff]
        omega
  · exact Bool.or_true _

theorem exponentValue_digitChars (e : ℤ) :
    (⟨decide (e < 0), (digitChars e.natAbs).map digitValue⟩ : Exponent).value = e := by
  have hvalue := ofDigits_naturalChars e.natAbs
  rw [naturalChars] at hvalue
  rw [Exponent.value, hvalue]
  simp only [decide_eq_true_eq]
  split <;> omega

/-- A plain numeral has its digits, and perhaps some zeros after them as far as the point and one beyond. -/
theorem plainNumeral_spec (negative : Bool) (digits : List ℕ) {point : ℤ} (hpoint : point ≤ 16) :
    ∃ extra : ℕ, (plainNumeral negative digits point).digits = ofDigits digits * 10 ^ extra ∧
      (plainNumeral negative digits point).places = point - digits.length - extra ∧
      (extra = 0 ∨ digits.length + extra ≤ 17) := by
  rw [plainNumeral]
  split
  · refine ⟨0, ?_, ?_, .inl rfl⟩
    · rw [Numeral.digits, ofDigits_append, ofDigits_append, ofDigits_replicate_zero]
      simp [ofDigits]
    · rw [Numeral.places, List.length_append, List.length_replicate]
      simp only [Option.map_none, Option.getD_none]
      push_cast
      omega
  · split
    · refine ⟨point.toNat - digits.length + 1, ?_, ?_, .inr (by omega)⟩
      · rw [Numeral.digits, ofDigits_append, ofDigits_append, ofDigits_replicate_zero,
          List.length_replicate, pow_succ, ← mul_assoc]
        rfl
      · rw [Numeral.places]
        simp only [Option.map_none, Option.getD_none, List.length_singleton]
        push_cast
        omega
    · refine ⟨0, ?_, ?_, .inl rfl⟩
      · rw [Numeral.digits, List.take_append_drop, pow_zero, mul_one]
      · rw [Numeral.places, List.length_drop]
        simp only [Option.map_none, Option.getD_none]
        omega

theorem exponentNumeral_spec (negative : Bool) {digits : List ℕ} (hdigits : 0 < digits.length) (point : ℤ) :
    (exponentNumeral negative digits point).digits = ofDigits digits ∧
      (exponentNumeral negative digits point).places = point - digits.length := by
  rw [exponentNumeral]
  constructor
  · rw [Numeral.digits, List.take_append_drop]
  · rw [Numeral.places, List.length_drop]
    simp only [Option.map_some, Option.getD_some, exponentValue_digitChars]
    omega

theorem written_spec {d : Scaled} (hd : 0 < d.digits) (negative : Bool) :
    ∃ extra : ℕ, (written negative d).digits = figuresValue d * 10 ^ extra ∧
      (written negative d).places = point d - (figures d).length - extra ∧
      (extra = 0 ∨ (figures d).length + extra ≤ 17) := by
  have hlength : ((figures d).map digitValue).length = (figures d).length := List.length_map _
  rw [written]
  split
  · rename_i hplain
    have hbelow : point d - 1 < 16 := hplain.2
    have hspec := plainNumeral_spec negative ((figures d).map digitValue) (by omega : point d ≤ 16)
    rwa [hlength] at hspec
  · have hne := length_figures_pos hd
    rw [← hlength] at hne
    obtain ⟨hdigits, hplaces⟩ := exponentNumeral_spec negative hne (point d)
    rw [hlength] at hplaces
    refine ⟨0, ?_, ?_, .inl rfl⟩
    · rw [hdigits, pow_zero, mul_one]
      rfl
    · rw [hplaces, Nat.cast_zero, sub_zero]

theorem isDigit_of_mem_figures {d : Scaled} {c : Char} (hc : c ∈ figures d) : c.isDigit = true := by
  obtain ⟨count, hchars, -⟩ := digitChars_eq_figures d
  apply (isWhole_naturalChars d.digits).1.2 c
  rw [naturalChars, hchars]
  exact List.mem_append_left _ hc

theorem digitValue_lt {c : Char} (h : c.isDigit = true) : digitValue c < 10 := by
  rw [Char.isDigit, Bool.and_eq_true, decide_eq_true_eq, decide_eq_true_eq] at h
  have hhigh : c.toNat ≤ 57 := h.2
  change c.toNat - 48 < 10
  omega

/-- What is written is the decimal itself. -/
theorem written_worth {d : Scaled} (hd : 0 < d.digits) (negative : Bool) :
    ((written negative d).digits : ℚ) * 10 ^ (written negative d).places = d.worth := by
  obtain ⟨extra, hdigits, hplaces, -⟩ := written_spec hd negative
  obtain ⟨count, -, hvalue, hpoint⟩ := digitChars_eq_figures d
  have hten : (10 : ℚ) ≠ 0 := by norm_num
  rw [hdigits, hplaces, hpoint, Scaled.worth, hvalue]
  push_cast
  rw [show ((figures d).length : ℤ) + count + d.exponent - (figures d).length - extra =
    count + d.exponent - extra by ring, zpow_sub₀ hten, zpow_add₀ hten, zpow_natCast, zpow_natCast]
  field_simp

theorem written_digits_pos {d : Scaled} (hd : 0 < d.digits) (negative : Bool) :
    0 < (written negative d).digits := by
  obtain ⟨extra, hdigits, -⟩ := written_spec hd negative
  rw [hdigits]
  exact Nat.mul_pos (figuresValue_pos hd) (by positivity)

theorem written_digits_le {d : Scaled} (hd : 0 < d.digits) (hle : d.digits ≤ 10 ^ 17)
    (negative : Bool) : (written negative d).digits ≤ 10 ^ 17 := by
  obtain ⟨extra, hdigits, -, hextra⟩ := written_spec hd negative
  obtain ⟨count, -, hvalue, -⟩ := digitChars_eq_figures d
  rw [hdigits]
  rcases hextra with rfl | hextra
  · rw [pow_zero, mul_one]
    refine le_trans ?_ hle
    rw [hvalue]
    exact Nat.le_mul_of_pos_right _ (by positivity)
  · have hlt : figuresValue d < 10 ^ (figures d).length := by
      have hds := @ofDigits_lt ((figures d).map digitValue) (by
        simp only [List.mem_map]
        rintro _ ⟨c, hc, rfl⟩
        exact digitValue_lt (isDigit_of_mem_figures hc))
      rwa [List.length_map] at hds
    calc figuresValue d * 10 ^ extra ≤ 10 ^ (figures d).length * 10 ^ extra :=
          Nat.mul_le_mul_right _ hlt.le
      _ = 10 ^ ((figures d).length + extra) := (pow_add _ _ _).symm
      _ ≤ 10 ^ 17 := Nat.pow_le_pow_right (by decide) hextra

/-! ## Reading the numeral -/

/-- A minus, where there is one. -/
def signChars (negative : Bool) : List Char := if negative then ['-'] else []

section Parts

variable (cut : Fault) {whole : List Char} (hwhole : IsWhole whole) (negative : Bool)
  {fraction : List Char} (hfraction : IsDigits fraction) {rest : List Symbol} (hrest : Delimited rest)

theorem numeral_signed {after after' rest : List Symbol} (hwhole : IsWhole whole)
    (hafter : NoDigit after) {ds : List Nat} (hds : fractionDigits cut after = .ok (ds, after'))
    {e : Option Exponent} (he : exponent cut after' = .ok (e, rest)) :
    numeral cut ((signChars negative).map some ++ (whole.map some ++ after)) =
      .ok (⟨negative, whole.map digitValue, ds, e⟩, rest) := by
  cases negative with
  | false => exact numeral_unsigned cut hwhole hafter hds he
  | true => exact numeral_negative cut hwhole hafter hds he

include hwhole hfraction hrest

theorem numeral_plain :
    numeral cut ((signChars negative ++ (whole ++ '.' :: fraction)).map some ++ rest) =
      .ok (⟨negative, whole.map digitValue, fraction.map digitValue, none⟩, rest) := by
  have hafter : fractionDigits cut (some '.' :: (fraction.map some ++ rest)) =
      .ok (fraction.map digitValue, rest) :=
    digits_append cut hfraction (noDigit_of_delimited hrest)
  simp only [List.map_append, List.map_cons, List.append_assoc, List.cons_append]
  exact numeral_signed cut negative hwhole (noDigit_cons (by decide) _) hafter
    (exponent_of_delimited cut hrest)

end Parts

theorem exponent_written (cut : Fault) (e : ℤ) {rest : List Symbol} (hrest : Delimited rest) :
    exponent cut (some 'e' :: some (if e < 0 then '-' else '+') ::
      ((digitChars e.natAbs).map some ++ rest)) =
      .ok (some ⟨decide (e < 0), (digitChars e.natAbs).map digitValue⟩, rest) := by
  have hdigits := digits_append cut (isWhole_naturalChars e.natAbs).1 (noDigit_of_delimited hrest)
  rw [naturalChars] at hdigits
  have hmark : (some 'e' = some 'e' || some 'e' = some 'E') = true := rfl
  by_cases he : e < 0
  · rw [if_pos he, exponent, if_pos hmark, decide_eq_true he]
    simp only [hdigits]
    rfl
  · rw [if_neg he, exponent, if_pos hmark, decide_eq_false he]
    simp only [hdigits]
    rfl

theorem numeral_scientific (cut : Fault) {whole : List Char} (hwhole : IsWhole whole) (negative : Bool)
    {fraction : List Char} (hfraction : ∀ c ∈ fraction, c.isDigit = true) (e : ℤ)
    {rest : List Symbol} (hrest : Delimited rest) :
    numeral cut ((signChars negative ++ (whole ++ ((if fraction = [] then [] else '.' :: fraction) ++
        'e' :: (if e < 0 then '-' else '+') :: digitChars e.natAbs))).map some ++ rest) =
      .ok (⟨negative, whole.map digitValue, fraction.map digitValue,
        some ⟨decide (e < 0), (digitChars e.natAbs).map digitValue⟩⟩, rest) := by
  have hexponent := exponent_written cut e hrest
  have hmark : ∀ after, NoDigit (some 'e' :: after) := noDigit_cons (by decide)
  simp only [List.map_append, List.map_cons, List.append_assoc, List.cons_append]
  split
  · rename_i hnil
    have hnone := @fractionDigits_of_no_point cut (some 'e' :: some (if e < 0 then '-' else '+') ::
      ((digitChars e.natAbs).map some ++ rest)) (by rintro _ ⟨⟩; decide)
    rw [hnil]
    exact numeral_signed cut negative hwhole (hmark _) hnone hexponent
  · rename_i hne
    have hpoint : fractionDigits cut (some '.' :: (fraction.map some ++ some 'e' ::
        some (if e < 0 then '-' else '+') :: ((digitChars e.natAbs).map some ++ rest))) =
        .ok (fraction.map digitValue, some 'e' :: some (if e < 0 then '-' else '+') ::
          ((digitChars e.natAbs).map some ++ rest)) :=
      digits_append cut ⟨hne, hfraction⟩ (hmark _)
    have hread := numeral_signed cut negative hwhole (noDigit_cons (by decide) _) hpoint hexponent
    rw [List.map_cons, List.cons_append]
    exact hread

theorem head?_figures {d : Scaled} (hd : 0 < d.digits) : (figures d).head? ≠ some '0' := by
  obtain ⟨count, hchars, -⟩ := digitChars_eq_figures d
  have hhead := head?_toDigits_of_pos d.digits hd
  change (digitChars d.digits).head? ≠ _ at hhead
  rwa [hchars, List.head?_append_of_ne_nil _ (List.ne_nil_of_length_pos (length_figures_pos hd))] at hhead

/-- Digits that begin as the figures do stand before a point. -/
theorem isWhole_of_figures {d : Scaled} (hd : 0 < d.digits) {whole : List Char}
    (hdigits : ∀ c ∈ whole, c.isDigit = true) (hhead : whole.head? = (figures d).head?) :
    IsWhole whole := by
  refine ⟨⟨?_, hdigits⟩, fun hzero => absurd (hhead.symm.trans hzero) (head?_figures hd)⟩
  rintro rfl
  have hne := List.ne_nil_of_length_pos (length_figures_pos hd)
  exact hne (List.head?_eq_none_iff.1 hhead.symm)

theorem isDigit_of_mem_zeros {count : ℕ} {c : Char} (hc : c ∈ zeros count) : c.isDigit = true := by
  rw [List.eq_of_mem_replicate hc]
  rfl

theorem isDigits_zero : IsDigits ['0'] := ⟨List.cons_ne_nil _ _, List.forall_mem_singleton.2 rfl⟩

theorem map_zeros (count : ℕ) : (zeros count).map digitValue = List.replicate count 0 := List.map_replicate

section Figures

variable (cut : Fault) (negative : Bool) {d : Scaled} (hd : 0 < d.digits) {rest : List Symbol}
  (hrest : Delimited rest)

include hd hrest

theorem numeral_plainText :
    numeral cut ((signChars negative ++ plainText (figures d) (point d)).map some ++ rest) =
      .ok (plainNumeral negative ((figures d).map digitValue) (point d), rest) := by
  have hlength : ((figures d).map digitValue).length = (figures d).length := List.length_map _
  have hne := List.ne_nil_of_length_pos (length_figures_pos hd)
  rw [plainText, plainNumeral, hlength]
  split
  · have hdigits : ∀ c ∈ zeros (-point d).toNat ++ figures d, c.isDigit = true := by
      intro c hc
      rcases List.mem_append.1 hc with hc | hc
      · exact isDigit_of_mem_zeros hc
      · exact isDigit_of_mem_figures hc
    have hnil : zeros (-point d).toNat ++ figures d ≠ [] := List.append_ne_nil_of_right_ne_nil _ hne
    have hread := numeral_plain cut ⟨isDigits_zero, fun _ => rfl⟩ negative ⟨hnil, hdigits⟩ hrest
    rw [@List.map_append _ _ digitValue, map_zeros] at hread
    exact hread
  · split
    · have hdigits : ∀ c ∈ figures d ++ zeros ((point d).toNat - (figures d).length),
          c.isDigit = true := by
        intro c hc
        rcases List.mem_append.1 hc with hc | hc
        · exact isDigit_of_mem_figures hc
        · exact isDigit_of_mem_zeros hc
      have hwhole := isWhole_of_figures hd hdigits (List.head?_append_of_ne_nil _ hne)
      have hread := numeral_plain cut hwhole negative isDigits_zero hrest
      rw [@List.map_append _ _ digitValue, map_zeros, List.append_assoc] at hread
      rw [List.append_assoc]
      exact hread
    · have hwhole : IsWhole ((figures d).take (point d).toNat) := by
        apply isWhole_of_figures hd
        · exact fun c hc => isDigit_of_mem_figures (List.mem_of_mem_take hc)
        · rw [List.head?_take, if_neg (by omega)]
      have hfraction : IsDigits ((figures d).drop (point d).toNat) := by
        refine ⟨?_, fun c hc => isDigit_of_mem_figures (List.mem_of_mem_drop hc)⟩
        rw [Ne, List.drop_eq_nil_iff]
        omega
      have hread := numeral_plain cut hwhole negative hfraction hrest
      rw [List.map_take, List.map_drop] at hread
      exact hread

theorem numeral_exponentText :
    numeral cut ((signChars negative ++ exponentText (figures d) (point d)).map some ++ rest) =
      .ok (exponentNumeral negative ((figures d).map digitValue) (point d), rest) := by
  have hwhole : IsWhole ((figures d).take 1) := by
    apply isWhole_of_figures hd
    · exact fun c hc => isDigit_of_mem_figures (List.mem_of_mem_take hc)
    · rw [List.head?_take, if_neg one_ne_zero]
  have hdigits : ∀ c ∈ (figures d).drop 1, c.isDigit = true :=
    fun c hc => isDigit_of_mem_figures (List.mem_of_mem_drop hc)
  have hread := numeral_scientific cut hwhole negative hdigits (point d - 1) hrest
  have hpoint : (if (figures d).drop 1 = [] then [] else '.' :: (figures d).drop 1) =
      if (figures d).length ≤ 1 then [] else '.' :: (figures d).drop 1 := by
    simp only [List.drop_eq_nil_iff]
  rw [hpoint, List.map_take, List.map_drop, ← List.append_assoc ((figures d).take 1)] at hread
  exact hread

/-- The text of a decimal is read as the numeral that is written for it. -/
theorem numeral_written :
    numeral cut ((signChars negative ++ layout.scaled d).map some ++ rest) =
      .ok (written negative d, rest) := by
  have htext : layout.scaled d =
      if layout.plainFrom ≤ point d - 1 ∧ point d - 1 < layout.plainBelow then
        plainText (figures d) (point d) else exponentText (figures d) (point d) := by
    simp only [Layout.scaled, Bool.and_eq_true, decide_eq_true_eq]
    rfl
  rw [htext, written]
  split
  · exact numeral_plainText cut negative hd hrest
  · exact numeral_exponentText cut negative hd hrest

end Figures

end MetricWatch.Json
