import MetricWatch.Json.Skip
import MetricWatch.Proofs.Json.Containers

/-!
Which texts are JSON values, and that every one of them is passed over, whatever it holds and however
deep it nests.
-/

namespace MetricWatch.Json

/-- A well-formed value. -/
inductive IsValue : List Char → Prop
  | null : IsValue nullChars
  | yes : IsValue ['t', 'r', 'u', 'e']
  | no : IsValue ['f', 'a', 'l', 's', 'e']
  | text {body : List Char} (h : IsBody body) : IsValue ('"' :: (body ++ ['"']))
  | number {cs : List Char} (h : IsNumber cs) : IsValue cs
  | emptyList {blank : List Char} (h : IsBlank blank) : IsValue ('[' :: (blank ++ [']']))
  | list {is : List (Padding × List Char)} (h : ∀ i ∈ is, IsValue i.2) :
      IsValue (listChars (is.map itemText))
  | emptyObject {blank : List Char} (h : IsBlank blank) :
      IsValue ('\x7b' :: (blank ++ ['\x7d']))
  | object {es : List Entry} (hkeys : ∀ e ∈ es, IsBody e.key) (h : ∀ e ∈ es, IsValue e.value) :
      IsValue (objectChars (es.map Entry.chars))

theorem IsNumber.begins {cs : List Char} (h : IsNumber cs) :
    ∃ c cs', cs = c :: cs' ∧ isSpace (some c) = false ∧ beginsNumber (some c) = true := by
  obtain ⟨sign, whole, fraction, exponent, hsign, ⟨⟨hne, hdigits⟩, -⟩, -, -, rfl⟩ := h
  rcases hsign with rfl | rfl
  · obtain ⟨c, whole, rfl⟩ := List.exists_cons_of_ne_nil hne
    exact ⟨c, _, rfl, begins_of_isDigit (hdigits c List.mem_cons_self)⟩
  · exact ⟨'-', _, rfl, rfl, rfl⟩

theorem ne_of_beginsNumber {c : Char} (h : beginsNumber (some c) = true) :
    c ≠ 'n' ∧ c ≠ 't' ∧ c ≠ 'f' ∧ c ≠ '"' ∧ c ≠ ']' := by
  refine ⟨?_, ?_, ?_, ?_, ?_⟩
  all_goals
    rintro rfl
    exact absurd h (by decide)

theorem IsValue.begins {cs : List Char} (h : IsValue cs) : Begins cs := by
  cases h with
  | null | yes | no | text | emptyList | list | emptyObject | object =>
      exact ⟨_, _, rfl, by decide, by decide⟩
  | number h =>
      obtain ⟨c, cs', hcs, hspace, hbegins⟩ := h.begins
      exact ⟨c, cs', hcs, hspace, (ne_of_beginsNumber hbegins).2.2.2.2⟩

theorem colon_of_blank {blank : List Char} (h : IsBlank blank) (rest : List Symbol) :
    colon (blank.map some ++ some ':' :: rest) = .ok rest := by
  rw [colon, skipSpace_of_blank h, skipSpace_of_not_space (by decide)]
  rfl

theorem skipWithin_of_blank (depth : Nat) {blank : List Char} (h : IsBlank blank)
    (input : List Symbol) : skipWithin depth (blank.map some ++ input) = skipWithin depth input := by
  cases depth with
  | zero => rfl
  | succ depth => rw [skipWithin, skipWithin, skipSpace_of_blank h]

/-- Passes over what follows a key. -/
def skipMember (depth : Nat) (_ _ : Unit) : Reader Unit := fun input => do
  let rest ← colon input
  skipWithin depth rest

theorem skipWithin_list (depth : Nat) (rest : List Symbol) :
    skipWithin (depth + 1) (some '[' :: rest) =
      (items (skipWithin depth) (rest.length + 1) true rest).map fun (_, rest) => ((), rest) := rfl

theorem skipWithin_object (depth : Nat) (rest : List Symbol) :
    skipWithin (depth + 1) (some '\x7b' :: rest) =
      members passTextBody (skipMember depth) (rest.length + 1) true () rest := rfl

theorem takes_skipMember {depth : Nat} {e : Entry} (hkey : IsBody e.key)
    (hvalue : Reads (skipWithin depth) e.value ()) :
    Takes passTextBody (skipMember depth) () e () := by
  refine ⟨(), passTextBody_of_body hkey, ?_⟩
  intro rest hrest
  rw [Entry.tail_append, skipMember, colon_of_blank e.keyPadding.after_blank, ok_bind,
    skipWithin_of_blank _ e.valuePadding.before_blank]
  exact hvalue rest hrest

theorem gathers_of_forall {κ σ : Type} {key : Reader κ} {member : κ → σ → Reader σ} {s : σ}
    {es : List Entry} (h : ∀ e ∈ es, Takes key member s e s) : Gathers key member s es s := by
  induction es with
  | nil => exact .nil s
  | cons e es ih =>
      obtain ⟨he, hes⟩ := List.forall_mem_cons.1 h
      exact .cons he (ih hes)

/-- A value is passed over with more depth than it is long. -/
theorem skipWithin_of_isValue {cs : List Char} (h : IsValue cs) {depth : Nat}
    (hdepth : cs.length < depth) : Reads (skipWithin depth) cs () := by
  induction h generalizing depth with
  | null | yes | no =>
      rintro rest -
      obtain ⟨depth, rfl⟩ := Nat.exists_eq_succ_of_ne_zero (Nat.ne_zero_of_lt hdepth)
      rfl
  | @text body hbody =>
      rintro rest -
      obtain ⟨depth, rfl⟩ := Nat.exists_eq_succ_of_ne_zero (Nat.ne_zero_of_lt hdepth)
      have hpass := passTextBody_of_body hbody rest
      have hinput : ('"' :: (body ++ ['"'])).map some ++ rest =
          some '"' :: (body.map some ++ some '"' :: rest) := by
        simp
      rw [hinput, skipWithin, skipSpace_of_not_space (by decide)]
      exact hpass
  | @number cs hcs =>
      intro rest hrest
      obtain ⟨depth, rfl⟩ := Nat.exists_eq_succ_of_ne_zero (Nat.ne_zero_of_lt hdepth)
      obtain ⟨n, hn⟩ := numeral_of_isNumber hcs
      have hn := hn .malformed rest hrest
      obtain ⟨c, cs, rfl, hspace, hbegins⟩ := hcs.begins
      obtain ⟨hnull, htrue, hfalse, hquote, -⟩ := ne_of_beginsNumber hbegins
      rw [List.map_cons, List.cons_append] at hn ⊢
      rw [skipWithin, skipSpace_of_not_space hspace]
      simp only [Option.some.injEq, hnull, htrue, hfalse, hquote, hbegins, if_false, if_true, hn]
      rfl
  | @emptyList blank hblank =>
      rintro rest -
      obtain ⟨depth, rfl⟩ := Nat.exists_eq_succ_of_ne_zero (Nat.ne_zero_of_lt hdepth)
      have hinput : ('[' :: (blank ++ [']'])).map some ++ rest =
          some '[' :: (blank.map some ++ some ']' :: rest) := by
        simp
      rw [hinput, skipWithin_list, items_closing _ true hblank]
      rfl
  | @list is h ih =>
      rintro rest -
      obtain ⟨depth, rfl⟩ := Nat.exists_eq_succ_of_ne_zero (Nat.ne_zero_of_lt hdepth)
      -- An item is shorter than the list that holds it, so one level of depth less is enough for it.
      have hitems : List.Forall₂ (ReadsItem (skipWithin depth)) is (is.map fun _ => ()) := by
        rw [List.forall₂_map_right_iff, List.forall₂_same]
        intro i hi
        refine ⟨ih i hi ?_, (h i hi).begins⟩
        have hlong := i.1.length_le_around i.2
        have hshort := length_le_commaSeparated (List.mem_map_of_mem (f := itemText) hi)
        rw [listChars, List.length_cons, List.length_append] at hdepth
        rw [itemText] at hshort
        omega
      exact congrArg (·.map fun (_, rest) => ((), rest)) (items_of_forall hitems rest rfl)
  | @emptyObject blank hblank =>
      rintro rest -
      obtain ⟨depth, rfl⟩ := Nat.exists_eq_succ_of_ne_zero (Nat.ne_zero_of_lt hdepth)
      have hinput : ('\x7b' :: (blank ++ ['\x7d'])).map some ++ rest =
          some '\x7b' :: (blank.map some ++ some '\x7d' :: rest) := by
        simp
      rw [hinput, skipWithin_object]
      exact members_closing _ true () hblank rest
  | @object es hkeys h ih =>
      rintro rest -
      obtain ⟨depth, rfl⟩ := Nat.exists_eq_succ_of_ne_zero (Nat.ne_zero_of_lt hdepth)
      have hentries : Gathers passTextBody (skipMember depth) () es () := by
        apply gathers_of_forall
        intro e he
        apply takes_skipMember (hkeys e he)
        apply ih e he
        have hlong := e.length_value_le
        have hshort := length_le_commaSeparated (List.mem_map_of_mem (f := Entry.chars) he)
        rw [objectChars, List.length_cons, List.length_append] at hdepth
        omega
      exact members_of_gathers hentries rest rfl

theorem skip_of_isValue {cs : List Char} (h : IsValue cs) {blank : List Char}
    (hblank : IsBlank blank) {rest : List Symbol} (hrest : Delimited rest) :
    skip (blank.map some ++ (cs.map some ++ rest)) = .ok ((), rest) := by
  rw [skip, skipWithin_of_blank _ hblank]
  apply skipWithin_of_isValue h _ rest hrest
  simp only [List.length_append, List.length_map]
  omega

end MetricWatch.Json
