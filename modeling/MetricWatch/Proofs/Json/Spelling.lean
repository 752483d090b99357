import Mathlib.Data.List.Basic
import MetricWatch.Json.Printer
import MetricWatch.Json.Reader

/-!
How strings are spelled. A text has many spellings, of which the printer chooses one. A string that
is passed over may also break surrogate pairs, and then it spells no text.
-/

namespace MetricWatch.Json

@[simp] theorem ok_bind {α β : Type} (x : α) (f : α → Except Fault β) :
    (Except.ok x >>= f) = f x := rfl

@[simp] theorem map_ok {α β : Type} (f : α → β) (x : α) :
    (Except.ok x : Except Fault α).map f = .ok (f x) := rfl

/-- White space only. -/
def IsBlank (cs : List Char) : Prop := ∀ c ∈ cs, isSpace (some c) = true

instance (cs : List Char) : Decidable (IsBlank cs) :=
  List.decidableBAll (fun c => isSpace (some c) = true) cs

theorem isBlank_nil : IsBlank [] := nofun

theorem skipSpace_of_blank {blank : List Char} (h : IsBlank blank) (rest : List Symbol) :
    skipSpace (blank.map some ++ rest) = skipSpace rest := by
  induction blank with
  | nil => rfl
  | cons c blank ih =>
      obtain ⟨hc, hblank⟩ := List.forall_mem_cons.1 h
      rw [List.map_cons, List.cons_append, skipSpace, List.dropWhile_cons_of_pos hc]
      exact ih hblank

theorem skipSpace_of_not_space {s : Symbol} (h : isSpace s = false) (rest : List Symbol) :
    skipSpace (s :: rest) = s :: rest := by
  rw [skipSpace, List.dropWhile_cons_of_neg]
  rw [h]
  exact Bool.false_ne_true

/-- The number that four hexadecimal digits stand for. -/
def unit? : List Char → Option Nat
  | [a, b, c, d] =>
    match hexDigit? (some a), hexDigit? (some b), hexDigit? (some c), hexDigit? (some d) with
    | some a, some b, some c, some d => some (((16 * a + b) * 16 + c) * 16 + d)
    | _, _, _, _ => none
  | _ => none

theorem length_of_unit? {ds : List Char} {n : Nat} (h : unit? ds = some n) : ds.length = 4 := by
  unfold unit? at h
  split at h
  · rfl
  · cases h

theorem hexUnit_of_unit? {ds : List Char} {n : Nat} (h : unit? ds = some n)
    (rest : List Symbol) : hexUnit (ds.map some ++ rest) = .ok n := by
  unfold unit? at h
  split at h
  · rename_i a b c d
    split at h
    · rename_i ha hb hc hd
      obtain rfl := Option.some.inj h
      simp [hexUnit, ha, hb, hc, hd]
    · cases h
  · cases h

/-- What may follow a backslash. -/
inductive IsEscape : List Char → Prop
  | letter {l : Char} (h : (escaped? (some l)).isSome = true) : IsEscape [l]
  | unit {ds : List Char} (h : (unit? ds).isSome = true) : IsEscape ('u' :: ds)

/-- What may stand between the quotes of a string. -/
inductive IsBody : List Char → Prop
  | nil : IsBody []
  | plain {c : Char} {cs : List Char} (hplain : isPlain c = true) (hquote : c ≠ '"')
      (hbackslash : c ≠ '\\') (h : IsBody cs) : IsBody (c :: cs)
  | escape {es cs : List Char} (hes : IsEscape es) (h : IsBody cs) : IsBody ('\\' :: (es ++ cs))

/-- What may follow a backslash in a string that is kept, and the character that it stands for. -/
inductive SpellsEscape : List Char → Char → Prop
  | letter {l c : Char} (h : escaped? (some l) = some c) : SpellsEscape [l] c
  | unit {ds : List Char} {n : Nat} (hn : unit? ds = some n) (hhigh : isHighSurrogate n = false)
      (hlow : isLowSurrogate n = false) : SpellsEscape ('u' :: ds) (Char.ofNat n)
  | pair {ds es : List Char} {m n : Nat} (hm : unit? ds = some m) (hn : unit? es = some n)
      (hhigh : isHighSurrogate m = true) (hlow : isLowSurrogate n = true) :
      SpellsEscape ('u' :: (ds ++ '\\' :: 'u' :: es))
        (Char.ofNat (0x10000 + (m - 0xD800) * 0x400 + (n - 0xDC00)))

/-- What may stand between the quotes of a string that is kept, and the characters of its text. -/
inductive Spells : List Char → List Char → Prop
  | nil : Spells [] []
  | plain {c : Char} {cs s : List Char} (hplain : isPlain c = true) (hquote : c ≠ '"')
      (hbackslash : c ≠ '\\') (h : Spells cs s) : Spells (c :: cs) (c :: s)
  | escape {es cs s : List Char} {c : Char} (hes : SpellsEscape es c) (h : Spells cs s) :
      Spells ('\\' :: (es ++ cs)) (c :: s)

/-! ## The readers -/

theorem ne_u_of_escaped? {l : Char} (h : (escaped? (some l)).isSome = true) :
    (some l : Symbol) ≠ some 'u' := by
  rintro hu
  rw [hu] at h
  cases h

theorem passEscape_of_isEscape {es : List Char} (h : IsEscape es) (rest : List Symbol) :
    passEscape (es.map some ++ rest) = .ok es.length := by
  cases h with
  | letter hl =>
      change passEscape (some _ :: rest) = _
      rw [passEscape, if_neg (ne_u_of_escaped? hl), if_pos hl]
      rfl
  | @unit ds hds =>
      obtain ⟨n, hn⟩ := Option.isSome_iff_exists.1 hds
      change passEscape (some 'u' :: (ds.map some ++ rest)) = _
      rw [passEscape, if_pos rfl, hexUnit_of_unit? hn, List.length_cons, length_of_unit? hn]
      rfl

theorem lowSurrogate_of_unit? {es : List Char} {n : Nat} (hn : unit? es = some n)
    (hlow : isLowSurrogate n = true) (rest : List Symbol) :
    lowSurrogate (some '\\' :: some 'u' :: (es.map some ++ rest)) = .ok n := by
  have hword : word ['\\', 'u'] (some '\\' :: some 'u' :: (es.map some ++ rest)) =
      .ok (es.map some ++ rest) := rfl
  rw [lowSurrogate, hword, ok_bind, hexUnit_of_unit? hn, ok_bind, if_pos hlow]

theorem not_low_of_high {n : Nat} (h : isHighSurrogate n = true) : isLowSurrogate n = false := by
  simp only [isHighSurrogate, isLowSurrogate, Bool.and_eq_true, decide_eq_true_eq,
    Bool.and_eq_false_iff, decide_eq_false_iff_not] at h ⊢
  omega

theorem escape_of_spells {es : List Char} {c : Char} (h : SpellsEscape es c)
    (rest : List Symbol) : escape (es.map some ++ rest) = .ok (c, es.length) := by
  cases h with
  | letter hl =>
      change escape (some _ :: rest) = _
      rw [escape, if_neg (ne_u_of_escaped? (Option.isSome_of_eq_some hl)), hl]
      rfl
  | @unit ds n hn hhigh hlow =>
      change escape (some 'u' :: (ds.map some ++ rest)) = _
      rw [escape, if_pos rfl, hexUnit_of_unit? hn, ok_bind, hlow, hhigh, List.length_cons,
        length_of_unit? hn]
      rfl
  | @pair ds es m n hm hn hhigh hlow =>
      have hinput : ('u' :: (ds ++ '\\' :: 'u' :: es)).map some ++ rest = some 'u' ::
          (ds.map some ++ some '\\' :: some 'u' :: (es.map some ++ rest)) := by
        simp
      have hdrop : (ds.map some ++ some '\\' :: some 'u' :: (es.map some ++ rest)).drop 4 =
          some '\\' :: some 'u' :: (es.map some ++ rest) := by
        rw [← length_of_unit? hm, ← List.length_map (some : Char → Symbol), List.drop_left]
      have hlength : ('u' :: (ds ++ '\\' :: 'u' :: es)).length = 11 := by
        simp [length_of_unit? hm, length_of_unit? hn]
      rw [hinput, escape, if_pos rfl, hexUnit_of_unit? hm, ok_bind, not_low_of_high hhigh, hhigh,
        hdrop, lowSurrogate_of_unit? hn hlow, hlength]
      rfl

theorem textFrom_length (taken : List Char) (rest : List Symbol) :
    textFrom taken.length (taken.map some ++ rest) = textFrom 0 rest := by
  induction taken with
  | nil => rfl
  | cons c taken ih => exact ih

theorem passTextFrom_length (taken : List Char) (rest : List Symbol) :
    passTextFrom taken.length (taken.map some ++ rest) = passTextFrom 0 rest := by
  induction taken with
  | nil => rfl
  | cons c taken ih => exact ih

/-- A string that spells a text is read as that text. -/
theorem textFrom_of_spells {cs s : List Char} (h : Spells cs s) (rest : List Symbol) :
    textFrom 0 (cs.map some ++ some '"' :: rest) = .ok (s, rest) := by
  induction h with
  | nil => rfl
  | @plain c cs s hplain hquote hbackslash _ ih =>
      rw [List.map_cons, List.cons_append, textFrom, if_neg, if_neg]
      · simp only [hplain, if_true, ih]
        rfl
      · simpa using hbackslash
      · simpa using hquote
  | @escape es cs s c hes _ ih =>
      have hescape := escape_of_spells hes (cs.map some ++ some '"' :: rest)
      rw [List.map_cons, List.cons_append, List.map_append, List.append_assoc, textFrom,
        if_neg (by decide), if_pos rfl, hescape]
      simp only [textFrom_length, ih, map_ok]

/-- A well-formed string is passed over. -/
theorem passTextFrom_of_body {cs : List Char} (h : IsBody cs) (rest : List Symbol) :
    passTextFrom 0 (cs.map some ++ some '"' :: rest) = .ok rest := by
  induction h with
  | nil => rfl
  | @plain c cs hplain hquote hbackslash _ ih =>
      rw [List.map_cons, List.cons_append, passTextFrom, if_neg, if_neg, if_pos]
      · exact ih
      · exact hplain
      · simpa using hbackslash
      · simpa using hquote
  | @escape es cs hes _ ih =>
      have hescape := passEscape_of_isEscape hes (cs.map some ++ some '"' :: rest)
      rw [List.map_cons, List.cons_append, List.map_append, List.append_assoc, passTextFrom,
        if_neg (by decide), if_pos rfl, hescape]
      simp only [passTextFrom_length, ih]

theorem textBody_of_spells {cs s : List Char} (h : Spells cs s) (rest : List Symbol) :
    textBody (cs.map some ++ some '"' :: rest) = .ok (String.ofList s, rest) := by
  rw [textBody, textFrom_of_spells h]
  rfl

theorem passTextBody_of_body {cs : List Char} (h : IsBody cs) (rest : List Symbol) :
    passTextBody (cs.map some ++ some '"' :: rest) = .ok ((), rest) := by
  rw [passTextBody, passTextFrom_of_body h]
  rfl

/-! ## The printer -/

theorem unit?_fourHexDigits : ∀ n < 0x20, unit? (fourHexDigits n) = some n := by decide

/-- A character is written as an escape of one letter, as its number, or as it stands. -/
theorem escapeChar_cases (c : Char) :
    (∃ l, escapeChar c = ['\\', l] ∧ escaped? (some l) = some c) ∨
    (c.toNat < 0x20 ∧ escapeChar c = '\\' :: 'u' :: fourHexDigits c.toNat) ∨
    (isPlain c = true ∧ c ≠ '"' ∧ c ≠ '\\' ∧ escapeChar c = [c]) := by
  unfold escapeChar
  iterate 7
    split
    · subst c
      exact .inl ⟨_, rfl, rfl⟩
  rename_i hquote hbackslash _ _ _ _ _
  split
  · rename_i hcontrol
    exact .inr (.inl ⟨hcontrol, rfl⟩)
  · rename_i hcontrol
    refine .inr (.inr ⟨?_, hquote, hbackslash, rfl⟩)
    rw [isPlain, decide_eq_true_eq]
    exact Nat.le_of_not_lt hcontrol

theorem spells_escapeChar (c : Char) {cs s : List Char} (h : Spells cs s) :
    Spells (escapeChar c ++ cs) (c :: s) := by
  rcases escapeChar_cases c with ⟨l, hc, hl⟩ | ⟨hcontrol, hc⟩ | ⟨hplain, hquote, hbackslash, hc⟩
  · rw [hc]
    exact .escape (.letter hl) h
  · have hescape : SpellsEscape ('u' :: fourHexDigits c.toNat) (Char.ofNat c.toNat) := by
      apply SpellsEscape.unit (unit?_fourHexDigits _ hcontrol)
      · simp only [isHighSurrogate, Bool.and_eq_false_iff, decide_eq_false_iff_not]
        omega
      · simp only [isLowSurrogate, Bool.and_eq_false_iff, decide_eq_false_iff_not]
        omega
    rw [Char.ofNat_toNat] at hescape
    rw [hc]
    exact .escape hescape h
  · rw [hc]
    exact .plain hplain hquote hbackslash h

/-- Every text is spelled by what is written for it. -/
theorem spells_escaped (s : List Char) : Spells (s.flatMap escapeChar) s := by
  induction s with
  | nil => exact .nil
  | cons c s ih => exact spells_escapeChar c ih

end MetricWatch.Json
