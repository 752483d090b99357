import Mathlib.Data.List.Basic
import MetricWatch.Json.Typed
import MetricWatch.Proofs.Json.Spelling

/-!
How numbers are spelled. Nothing but the next symbol tells where a number ends, so each reader is known
by the texts that it takes for a value in front of whatever may follow a value.
-/

namespace MetricWatch.Json

/-- The symbols that may follow a value. -/
def delimiters : List Symbol :=
  [some ' ', some '\t', some '\n', some '\r', some ',', some ']', some '\x7d']

/-- Whether a value may end before a text. -/
def Delimited (rest : List Symbol) : Prop := ∀ s ∈ rest.head?, s ∈ delimiters

theorem delimited_nil : Delimited [] := nofun

theorem delimited_cons {s : Symbol} (h : s ∈ delimiters) (rest : List Symbol) :
    Delimited (s :: rest) := by
  rintro s' hs'
  rwa [← Option.mem_some.1 hs']

theorem mem_delimiters_of_space {s : Symbol} (h : isSpace s = true) : s ∈ delimiters := by
  simp only [isSpace, Bool.or_eq_true, decide_eq_true_eq] at h
  rcases h with ((rfl | rfl) | rfl) | rfl <;> decide

theorem delimited_of_blank {blank : List Char} (h : IsBlank blank) {rest : List Symbol}
    (hrest : Delimited rest) : Delimited (blank.map some ++ rest) := by
  cases blank with
  | nil => exact hrest
  | cons c blank => exact delimited_cons (mem_delimiters_of_space (h c List.mem_cons_self)) _

/-- Whether a reader takes a text for a value, and takes nothing of what follows it. -/
def Reads {α : Type} (reader : Reader α) (cs : List Char) (x : α) : Prop :=
  ∀ rest, Delimited rest → reader (cs.map some ++ rest) = .ok (x, rest)

/-! ## Digits -/

/-- One decimal digit or more. -/
def IsDigits (ds : List Char) : Prop := ds ≠ [] ∧ ∀ c ∈ ds, c.isDigit = true

/-- The value of a character that is a digit. -/
def digitValue (c : Char) : Nat := c.toNat - '0'.toNat

theorem digit?_of_isDigit {c : Char} (h : c.isDigit = true) :
    digit? (some c) = some (digitValue c) := by
  rw [Char.isDigit, Bool.and_eq_true] at h
  change (if _ then _ else _) = _
  rw [if_pos]
  · rfl
  · rw [Bool.and_eq_true]
    exact h

theorem eq_zero_of_digitValue {c : Char} (h : c.isDigit = true) (hzero : digitValue c = 0) :
    c = '0' := by
  rw [Char.isDigit, Bool.and_eq_true, decide_eq_true_eq, decide_eq_true_eq] at h
  have hlow : 48 ≤ c.toNat := h.1
  have hvalue : c.toNat - 48 = 0 := hzero
  apply Char.toNat_inj.1
  change c.toNat = 48
  omega

/-- Whether no digit comes next. -/
def NoDigit (rest : List Symbol) : Prop := ∀ s ∈ rest.head?, digit? s = none

theorem noDigit_cons {s : Symbol} (h : digit? s = none) (rest : List Symbol) :
    NoDigit (s :: rest) := by
  rintro s' hs'
  rwa [← Option.mem_some.1 hs']

theorem spanDigits_of_noDigit {rest : List Symbol} (h : NoDigit rest) :
    spanDigits rest = ([], rest) := by
  cases rest with
  | nil => rfl
  | cons s rest => simp only [spanDigits, h s rfl]

theorem spanDigits_append {ds : List Char} (hds : ∀ c ∈ ds, c.isDigit = true)
    {rest : List Symbol} (hrest : NoDigit rest) :
    spanDigits (ds.map some ++ rest) = (ds.map digitValue, rest) := by
  induction ds with
  | nil => exact spanDigits_of_noDigit hrest
  | cons c ds ih =>
      obtain ⟨hc, hds⟩ := List.forall_mem_cons.1 hds
      simp only [List.map_cons, List.cons_append, spanDigits, digit?_of_isDigit hc, ih hds]

variable (cut : Fault)

theorem digits_append {ds : List Char} (hds : IsDigits ds) {rest : List Symbol}
    (hrest : NoDigit rest) : digits cut (ds.map some ++ rest) = .ok (ds.map digitValue, rest) := by
  obtain ⟨hne, hdigits⟩ := hds
  rw [digits, spanDigits_append hdigits hrest]
  cases ds with
  | nil => exact absurd rfl hne
  | cons c ds => rfl

/-! ## The parts of a number -/

/-- The digits before the point. A zero stands alone. -/
def IsWhole (ds : List Char) : Prop := IsDigits ds ∧ (ds.head? = some '0' → ds = ['0'])

/-- The part of a number that a point begins, if there is one. -/
def IsFraction (cs : List Char) : Prop := cs = [] ∨ ∃ ds, IsDigits ds ∧ cs = '.' :: ds

/-- The part of a number that an exponent's mark begins, if there is one. -/
def IsExponent (cs : List Char) : Prop :=
  cs = [] ∨ ∃ mark sign ds, (mark = 'e' ∨ mark = 'E') ∧ (sign = [] ∨ sign = ['+'] ∨ sign = ['-']) ∧
    IsDigits ds ∧ cs = mark :: (sign ++ ds)

/-- A number as it may be written. -/
def IsNumber (cs : List Char) : Prop :=
  ∃ sign whole fraction exponent, (sign = [] ∨ sign = ['-']) ∧ IsWhole whole ∧
    IsFraction fraction ∧ IsExponent exponent ∧ cs = sign ++ (whole ++ (fraction ++ exponent))

theorem of_mem_delimiters : ∀ s ∈ delimiters,
    digit? s = none ∧ s ≠ some '.' ∧ (s = some 'e' || s = some 'E') = false := by decide

theorem ne_sign_of_isDigit {c : Char} (h : c.isDigit = true) : c ≠ '-' ∧ c ≠ '+' := by
  constructor
  · rintro rfl
    exact absurd h (by decide)
  · rintro rfl
    exact absurd h (by decide)

theorem begins_of_isDigit {c : Char} (h : c.isDigit = true) :
    isSpace (some c) = false ∧ beginsNumber (some c) = true := by
  constructor
  · rw [Bool.eq_false_iff]
    intro hspace
    have hdigit := (of_mem_delimiters _ (mem_delimiters_of_space hspace)).1
    rw [digit?_of_isDigit h] at hdigit
    cases hdigit
  · rw [beginsNumber, digit?_of_isDigit h, Option.isSome_some, Bool.or_true]

theorem noDigit_of_delimited {rest : List Symbol} (h : Delimited rest) : NoDigit rest :=
  fun s hs => (of_mem_delimiters s (h s hs)).1

theorem wholeDigits_append {ds : List Char} (hds : IsWhole ds) {rest : List Symbol}
    (hrest : NoDigit rest) :
    wholeDigits cut (ds.map some ++ rest) = .ok (ds.map digitValue, rest) := by
  obtain ⟨hdigits, hzero⟩ := hds
  rw [wholeDigits, digits_append cut hdigits hrest]
  change (if _ then _ else _) = _
  rw [if_neg]
  rw [Bool.and_eq_true, decide_eq_true_eq, decide_eq_true_eq]
  rintro ⟨hhead, hlength⟩
  cases ds with
  | nil => cases hhead
  | cons c ds =>
      have hc := eq_zero_of_digitValue (hdigits.2 c List.mem_cons_self) (Option.some.inj hhead)
      rw [hzero (congrArg some hc)] at hlength
      exact absurd hlength (by decide)

theorem fractionDigits_of_no_point {rest : List Symbol}
    (hpoint : ∀ s ∈ rest.head?, s ≠ some '.') : fractionDigits cut rest = .ok ([], rest) := by
  unfold fractionDigits
  split
  · exact absurd rfl (hpoint _ rfl)
  · rfl

theorem fractionDigits_append {cs : List Char} (hcs : IsFraction cs) :
    ∃ ds, ∀ cut rest, NoDigit rest → (∀ s ∈ rest.head?, s ≠ some '.') →
      fractionDigits cut (cs.map some ++ rest) = .ok (ds, rest) := by
  rcases hcs with rfl | ⟨ds, hds, rfl⟩
  · exact ⟨[], fun cut _ _ hpoint => fractionDigits_of_no_point cut hpoint⟩
  · exact ⟨_, fun cut _ hrest _ => digits_append cut hds hrest⟩

theorem exponent_of_delimited {rest : List Symbol} (hrest : Delimited rest) :
    exponent cut rest = .ok (none, rest) := by
  unfold exponent
  split
  · rename_i s rest
    simp only [(of_mem_delimiters s (hrest s rfl)).2.2, Bool.false_eq_true, if_false]
  · rfl

theorem exponent_append {cs : List Char} (hcs : IsExponent cs) :
    ∃ e, ∀ cut rest, Delimited rest → exponent cut (cs.map some ++ rest) = .ok (e, rest) := by
  rcases hcs with rfl | ⟨mark, sign, ds, hmark, hsign, hds, rfl⟩
  · exact ⟨none, fun cut _ hrest => exponent_of_delimited cut hrest⟩
  · have hmarked : (some mark = some 'e' || some mark = some 'E') = true := by
      rcases hmark with rfl | rfl <;> rfl
    have hdigits (cut : Fault) {rest : List Symbol} (hrest : Delimited rest) :=
      digits_append cut hds (noDigit_of_delimited hrest)
    rcases hsign with rfl | rfl | rfl
    · refine ⟨some ⟨false, ds.map digitValue⟩, fun cut rest hrest => ?_⟩
      have hdigits := hdigits cut hrest
      obtain ⟨c, ds', rfl⟩ := List.exists_cons_of_ne_nil hds.1
      obtain ⟨hminus, hplus⟩ := ne_sign_of_isDigit (hds.2 c List.mem_cons_self)
      rw [List.nil_append, List.map_cons, List.cons_append, exponent, if_pos hmarked]
      · simp only [hdigits]
        rfl
      · exact fun _ h => hminus (Option.some.inj (List.cons.inj h).1)
      · exact fun _ h => hplus (Option.some.inj (List.cons.inj h).1)
    · refine ⟨some ⟨false, ds.map digitValue⟩, fun cut rest hrest => ?_⟩
      rw [List.singleton_append, List.map_cons, List.map_cons, List.cons_append, List.cons_append,
        exponent, if_pos hmarked]
      simp only [hdigits cut hrest]
      rfl
    · refine ⟨some ⟨true, ds.map digitValue⟩, fun cut rest hrest => ?_⟩
      rw [List.singleton_append, List.map_cons, List.map_cons, List.cons_append, List.cons_append,
        exponent, if_pos hmarked]
      simp only [hdigits cut hrest]
      rfl

theorem head?_of_isExponent {cs : List Char} (hcs : IsExponent cs) {rest : List Symbol}
    (hrest : Delimited rest) :
    ∀ s ∈ (cs.map some ++ rest).head?, digit? s = none ∧ s ≠ some '.' := by
  rcases hcs with rfl | ⟨mark, sign, ds, hmark, -, -, rfl⟩
  · intro s hs
    obtain ⟨hdigit, hpoint, -⟩ := of_mem_delimiters s (hrest s hs)
    exact ⟨hdigit, hpoint⟩
  · intro s hs
    rw [← Option.mem_some.1 hs]
    rcases hmark with rfl | rfl <;> decide

theorem noDigit_of_isFraction {cs : List Char} (hcs : IsFraction cs) {rest : List Symbol}
    (hrest : NoDigit rest) : NoDigit (cs.map some ++ rest) := by
  rcases hcs with rfl | ⟨ds, -, rfl⟩
  · exact hrest
  · exact noDigit_cons rfl _

section Parts

variable {whole : List Char} (hwhole : IsWhole whole) {after after' rest : List Symbol}
  (hafter : NoDigit after) {ds : List Nat} (hds : fractionDigits cut after = .ok (ds, after'))
  {e : Option Decimal.Exponent} (he : exponent cut after' = .ok (e, rest))

include hwhole hafter hds he

theorem numeral_unsigned :
    numeral cut (whole.map some ++ after) = .ok (⟨false, whole.map digitValue, ds, e⟩, rest) := by
  have hw := wholeDigits_append cut hwhole hafter
  obtain ⟨c, whole, rfl⟩ := List.exists_cons_of_ne_nil hwhole.1.1
  obtain ⟨hminus, -⟩ := ne_sign_of_isDigit (hwhole.1.2 c List.mem_cons_self)
  unfold numeral
  split
  rename_i hsigned
  split at hsigned
  · rename_i hinput
    exact absurd (Option.some.inj (List.cons.inj hinput).1) hminus
  · obtain ⟨rfl, rfl⟩ := Prod.mk.inj hsigned
    simp only [hw, hds, he, ok_bind]

theorem numeral_negative :
    numeral cut (some '-' :: (whole.map some ++ after)) =
      .ok (⟨true, whole.map digitValue, ds, e⟩, rest) := by
  have hw := wholeDigits_append cut hwhole hafter
  simp only [numeral, hw, hds, he, ok_bind]

end Parts

/-- A number is read up to its end, and as the same numeral whatever follows it. -/
theorem numeral_of_isNumber {cs : List Char} (hcs : IsNumber cs) :
    ∃ n, ∀ cut rest, Delimited rest → numeral cut (cs.map some ++ rest) = .ok (n, rest) := by
  obtain ⟨sign, whole, fraction, exponent, hsign, hwhole, hfraction, hexponent, rfl⟩ := hcs
  obtain ⟨e, he⟩ := exponent_append hexponent
  obtain ⟨ds, hds⟩ := fractionDigits_append hfraction
  refine ⟨⟨sign ≠ [], whole.map digitValue, ds, e⟩, fun cut rest hrest => ?_⟩
  have hlast := head?_of_isExponent hexponent hrest
  have hdigits := hds cut _ (fun s hs => (hlast s hs).1) fun s hs => (hlast s hs).2
  have hafter := noDigit_of_isFraction hfraction fun s hs => (hlast s hs).1
  simp only [List.map_append, List.append_assoc]
  rcases hsign with rfl | rfl
  · exact numeral_unsigned cut hwhole hafter hdigits (he cut rest hrest)
  · exact numeral_negative cut hwhole hafter hdigits (he cut rest hrest)

/-- What is read as a number begins as one. -/
theorem begins_of_numeral {cut : Fault} {input rest : List Symbol} {n : Decimal.Numeral}
    (h : numeral cut input = .ok (n, rest)) :
    ∃ s after, input = s :: after ∧ isSpace s = false ∧ beginsNumber s = true := by
  cases input with
  | nil => cases h
  | cons s after =>
      refine ⟨s, after, rfl, ?_⟩
      by_cases hminus : s = some '-'
      · rw [hminus]
        decide
      cases hdigit : digit? s with
      | some d =>
          refine ⟨?_, by rw [beginsNumber, hdigit, Option.isSome_some, Bool.or_true]⟩
          rw [Bool.eq_false_iff]
          intro hspace
          have hnone := (of_mem_delimiters _ (mem_delimiters_of_space hspace)).1
          rw [hdigit] at hnone
          cases hnone
      | none =>
          have hspan : spanDigits (s :: after) = ([], s :: after) :=
            spanDigits_of_noDigit (noDigit_cons hdigit after)
          unfold numeral at h
          split at h
          rename_i hsigned
          split at hsigned
          · rename_i hinput
            exact absurd (List.cons.inj hinput).1 hminus
          · obtain ⟨rfl, rfl⟩ := Prod.mk.inj hsigned
            rw [wholeDigits, digits, hspan] at h
            cases h

/-! ## Whole numbers as they are written -/

theorem head?_toDigits_of_pos (n : Nat) (hn : 0 < n) : (Nat.toDigits 10 n).head? ≠ some '0' := by
  induction n using Nat.strongRecOn with
  | ind n ih =>
      by_cases hsmall : n < 10
      · rw [Nat.toDigits_of_lt_base hsmall, List.head?_cons, ne_eq, Option.some.injEq]
        intro hzero
        have hvalue := congrArg Char.toNat hzero
        rw [Nat.toNat_digitChar_of_lt_ten hsmall] at hvalue
        change 48 + n = 48 at hvalue
        omega
      · rw [Nat.toDigits_of_base_le (by decide) (by omega), List.head?_append_of_ne_nil]
        · exact ih (n / 10) (by omega) (by omega)
        · exact Nat.toDigits_ne_nil

theorem isWhole_naturalChars (n : Nat) : IsWhole (naturalChars n) := by
  refine ⟨⟨Nat.toDigits_ne_nil, ?_⟩, ?_⟩
  · intro c hc
    exact Nat.isDigit_of_mem_toDigits (by decide) (by decide) hc
  · intro hhead
    rcases Nat.eq_zero_or_pos n with rfl | hn
    · rfl
    · exact absurd hhead (head?_toDigits_of_pos n hn)

theorem ofDigits_naturalChars (n : Nat) :
    Decimal.ofDigits ((naturalChars n).map digitValue) = n := by
  rw [Decimal.ofDigits, List.foldl_map]
  exact Nat.ofDigitChars_ten_toDigits

theorem number_naturalChars {n : Nat} (hn : n < UInt64.size) {rest : List Symbol}
    (hrest : Delimited rest) :
    number ((naturalChars n).map some ++ rest) = .ok (.natural (UInt64.ofNat n), rest) := by
  have hfraction := fractionDigits_of_no_point .truncated
    fun s hs => (of_mem_delimiters s (hrest s hs)).2.1
  have hexponent := exponent_of_delimited .truncated hrest
  have hnumeral := numeral_unsigned .truncated (isWhole_naturalChars n)
    (noDigit_of_delimited hrest) hfraction hexponent
  have hnumber : Number.ofNumeral? ⟨false, (naturalChars n).map digitValue, [], none⟩ =
      some (.natural (UInt64.ofNat n)) := by
    simp [Number.ofNumeral?, ofDigits_naturalChars, hn]
  simp only [number, hnumeral, ok_bind, hnumber]

/-- A whole number is read by whoever wants one of as many bits. -/
theorem wordOf_naturalChars {bits n : Nat} (hbits : n < Nat.pow 2 bits) (hn : n < UInt64.size)
    {rest : List Symbol} (hrest : Delimited rest) :
    wordOf bits ((naturalChars n).map some ++ rest) = .ok (n, rest) := by
  have hword : (UInt64.ofNat n).toNat = n := by
    rw [UInt64.toNat_ofNat']
    exact Nat.mod_eq_of_lt hn
  have haccept : acceptWord bits (.natural (UInt64.ofNat n)) = .ok n := by
    rw [acceptWord, hword, if_pos hbits]
  have hnumber := number_naturalChars hn hrest
  obtain ⟨⟨hne, hdigits⟩, -⟩ := isWhole_naturalChars n
  obtain ⟨c, cs, hcs⟩ := List.exists_cons_of_ne_nil hne
  rw [hcs] at hdigits hnumber ⊢
  rw [List.map_cons, List.cons_append] at hnumber ⊢
  obtain ⟨hspace, hbegins⟩ := begins_of_isDigit (hdigits c List.mem_cons_self)
  rw [wordOf, numberAs, skipSpace_of_not_space hspace]
  simp only [hbegins, if_true, hnumber, ok_bind, haccept]

theorem reads_word64 (n : UInt64) : Reads word64 (naturalChars n.toNat) n := by
  intro rest hrest
  rw [word64, wordOf_naturalChars n.toNat_lt n.toNat_lt hrest, map_ok]
  simp only [UInt64.ofNat_toNat]

theorem reads_word32 (n : UInt32) : Reads word32 (naturalChars n.toNat) n := by
  intro rest hrest
  have hn : n.toNat < UInt64.size := Nat.lt_trans n.toNat_lt (by decide)
  rw [word32, wordOf_naturalChars n.toNat_lt hn hrest, map_ok]
  simp only [UInt32.ofNat_toNat]

end MetricWatch.Json
