import Mathlib.Data.List.Forall2
import MetricWatch.Proofs.Json.Numerals

/-!
Reading lists and objects. Blanks may stand around every item, every key and every value.
-/

namespace MetricWatch.Json

/-- Whether a text begins as a value does. -/
def Begins (cs : List Char) : Prop :=
  ∃ c cs', cs = c :: cs' ∧ isSpace (some c) = false ∧ c ≠ ']'

/-- The blanks around something. -/
structure Padding where
  before : List Char
  after : List Char
  before_blank : IsBlank before
  after_blank : IsBlank after

namespace Padding

def none : Padding := ⟨[], [], isBlank_nil, isBlank_nil⟩

def around (p : Padding) (cs : List Char) : List Char := p.before ++ (cs ++ p.after)

@[simp] theorem none_around (cs : List Char) : none.around cs = cs := by
  rw [around, none, List.nil_append, List.append_nil]

theorem length_le_around (p : Padding) (cs : List Char) : cs.length ≤ (p.around cs).length := by
  rw [around, List.length_append, List.length_append]
  omega

end Padding

/-! ## Commas -/

/-- What follows the first of some texts up to the closing bracket. -/
def remainder (close : Char) : List (List Char) → List Char
  | [] => [close]
  | x :: rest => ',' :: (x ++ remainder close rest)

theorem commaSeparated_append (close : Char) (x : List Char) (rest : List (List Char)) :
    commaSeparated (x :: rest) ++ [close] = x ++ remainder close rest := by
  induction rest generalizing x with
  | nil => rfl
  | cons y rest ih =>
      rw [commaSeparated, List.append_assoc, List.cons_append, ih, remainder]
      simp

theorem length_le_commaSeparated {x : List Char} {xs : List (List Char)} (h : x ∈ xs) :
    x.length ≤ (commaSeparated xs).length := by
  induction xs using commaSeparated.induct with
  | case1 => cases h
  | case2 y =>
      rw [List.mem_singleton.1 h]
      exact Nat.le_refl _
  | case3 y ys hys ih =>
      rw [commaSeparated.eq_3 y ys hys, List.length_append, List.length_cons]
      rcases List.mem_cons.1 h with rfl | h
      · omega
      · have hlength := ih h
        omega

theorem count_le_commaSeparated {xs : List (List Char)} (h : ∀ x ∈ xs, x ≠ []) :
    xs.length ≤ (commaSeparated xs).length := by
  induction xs using commaSeparated.induct with
  | case1 => exact Nat.le_refl _
  | case2 y => exact List.length_pos_iff.2 (h y List.mem_cons_self)
  | case3 y ys hys ih =>
      have hlength := ih fun x hx => h x (List.mem_cons_of_mem _ hx)
      rw [commaSeparated.eq_3 y ys hys, List.length_append, List.length_cons, List.length_cons]
      omega

/-! ## Lists -/

section Items

variable {α : Type} {item : Reader α}

theorem items_closing (bound : Nat) (first : Bool) {blank : List Char} (hblank : IsBlank blank)
    (rest : List Symbol) :
    items item (bound + 1) first (blank.map some ++ some ']' :: rest) = .ok ([], rest) := by
  rw [items, skipSpace_of_blank hblank, skipSpace_of_not_space (by decide)]
  rfl

/-- Whether an item, inside its blanks, is read as a value. -/
def ReadsItem (item : Reader α) (i : Padding × List Char) (x : α) : Prop :=
  Reads item i.2 x ∧ Begins i.2

def itemText (i : Padding × List Char) : List Char := i.1.around i.2

theorem delimited_remainder (close : Char) (h : some close ∈ delimiters) (xs : List (List Char))
    (rest : List Symbol) : Delimited ((remainder close xs).map some ++ rest) := by
  cases xs with
  | nil => exact delimited_cons h _
  | cons x xs => exact delimited_cons (by decide) _

theorem skipSpace_itemText {i : Padding × List Char} (hi : Begins i.2) (tail : List Symbol) :
    ∃ c rest, skipSpace ((itemText i).map some ++ tail) = some c :: rest ∧ c ≠ ']' ∧
      some c :: rest = i.2.map some ++ (i.1.after.map some ++ tail) := by
  obtain ⟨c, cs, hcs, hspace, hc⟩ := hi
  refine ⟨c, cs.map some ++ (i.1.after.map some ++ tail), ?_, hc, ?_⟩
  · rw [itemText, Padding.around, List.map_append, List.append_assoc,
      skipSpace_of_blank i.1.before_blank, hcs, List.cons_append, List.map_cons, List.cons_append,
      skipSpace_of_not_space hspace, List.map_append, List.append_assoc]
  · rw [hcs]
    rfl

theorem items_first {i : Padding × List Char} {x : α} (hi : ReadsItem item i x) (bound : Nat)
    {tail : List Symbol} (htail : Delimited tail) :
    items item (bound + 1) true ((itemText i).map some ++ tail) =
      (items item bound false (i.1.after.map some ++ tail)).map fun (xs, rest) => (x :: xs, rest) := by
  obtain ⟨hreads, hbegins⟩ := hi
  have hitem := hreads _ (delimited_of_blank i.1.after_blank htail)
  obtain ⟨c, rest, hskip, hc, hrest⟩ := skipSpace_itemText hbegins tail
  rw [← hrest] at hitem
  rw [items, hskip]
  simp only [Option.some.injEq, hc, if_false, if_true, hitem]

theorem items_next {i : Padding × List Char} (hi : Begins i.2) (bound : Nat)
    {blank : List Char} (hblank : IsBlank blank) (tail : List Symbol) :
    items item (bound + 1) false
        (blank.map some ++ some ',' :: ((itemText i).map some ++ tail)) =
      items item (bound + 1) true ((itemText i).map some ++ tail) := by
  obtain ⟨c, rest, hskip, hc, -⟩ := skipSpace_itemText hi tail
  rw [items, items, hskip, skipSpace_of_blank hblank, skipSpace_of_not_space (by decide)]
  simp only [hskip, Option.some.injEq, hc, if_false, if_true]
  rfl

-- The blanks after an item are skipped before the comma that follows, so they belong to the remainder.
theorem items_remainder {is : List (Padding × List Char)} {xs : List α}
    (h : List.Forall₂ (ReadsItem item) is xs) {bound : Nat} (hbound : is.length < bound)
    {blank : List Char} (hblank : IsBlank blank) (rest : List Symbol) :
    items item bound false (blank.map some ++ ((remainder ']' (is.map itemText)).map some ++ rest)) =
      .ok (xs, rest) := by
  induction h generalizing bound blank with
  | nil =>
      obtain ⟨bound, rfl⟩ := Nat.exists_eq_succ_of_ne_zero (Nat.ne_zero_of_lt hbound)
      exact items_closing bound false hblank rest
  | @cons i x is xs hi _ ih =>
      obtain ⟨bound, rfl⟩ := Nat.exists_eq_succ_of_ne_zero (Nat.ne_zero_of_lt hbound)
      have htail := delimited_remainder ']' (by decide) (is.map itemText) rest
      rw [List.map_cons, remainder, List.map_cons, List.map_append, List.cons_append,
        List.append_assoc, items_next hi.2 bound hblank, items_first hi bound htail,
        ih (Nat.lt_of_succ_lt_succ hbound) i.1.after_blank]
      rfl

theorem items_commaSeparated {is : List (Padding × List Char)} {xs : List α}
    (h : List.Forall₂ (ReadsItem item) is xs) {bound : Nat} (hbound : is.length < bound)
    (rest : List Symbol) :
    items item bound true ((commaSeparated (is.map itemText) ++ [']']).map some ++ rest) =
      .ok (xs, rest) := by
  cases h with
  | nil =>
      obtain ⟨bound, rfl⟩ := Nat.exists_eq_succ_of_ne_zero (Nat.ne_zero_of_lt hbound)
      exact items_closing bound true isBlank_nil rest
  | @cons i x is xs hi h =>
      obtain ⟨bound, rfl⟩ := Nat.exists_eq_succ_of_ne_zero (Nat.ne_zero_of_lt hbound)
      have htail := delimited_remainder ']' (by decide) (is.map itemText) rest
      rw [List.map_cons, commaSeparated_append, List.map_append, List.append_assoc,
        items_first hi bound htail,
        items_remainder h (Nat.lt_of_succ_lt_succ hbound) i.1.after_blank]
      rfl

theorem itemText_ne_nil {i : Padding × List Char} (hi : Begins i.2) : itemText i ≠ [] := by
  obtain ⟨c, cs, hcs, -⟩ := hi
  simp [itemText, Padding.around, hcs]

/-- A list is read item after item, whatever the text that stands after its bracket. -/
theorem items_of_forall {is : List (Padding × List Char)} {xs : List α}
    (h : List.Forall₂ (ReadsItem item) is xs) (rest : List Symbol) {input : List Symbol}
    (hinput : (listChars (is.map itemText)).map some ++ rest = some '[' :: input) :
    items item (input.length + 1) true input = .ok (xs, rest) := by
  have htexts : ∀ t ∈ is.map itemText, t ≠ [] := by
    have hbegins : ∀ i ∈ is, Begins i.2 := by
      clear hinput
      induction h with
      | nil => exact nofun
      | cons hi _ ih => exact List.forall_mem_cons.2 ⟨hi.2, ih⟩
    intro t ht
    obtain ⟨i, hi, rfl⟩ := List.mem_map.1 ht
    exact itemText_ne_nil (hbegins i hi)
  have hcount := count_le_commaSeparated htexts
  obtain rfl : (commaSeparated (is.map itemText) ++ [']']).map some ++ rest = input :=
    (List.cons.inj hinput).2
  apply items_commaSeparated h
  simp only [List.length_map, List.length_append] at hcount ⊢
  omega

end Items

/-! ## Objects -/

/-- A member of an object: the text between the quotes of its key, the text of its value, and the
blanks around both. -/
structure Entry where
  keyPadding : Padding
  key : List Char
  valuePadding : Padding
  value : List Char

namespace Entry

/-- What follows a key, up to the blanks after the value. -/
def tail (e : Entry) : List Char :=
  e.keyPadding.after ++ ':' :: (e.valuePadding.before ++ e.value)

/-- A member as it is written. -/
def chars (e : Entry) : List Char :=
  e.keyPadding.before ++ '"' :: (e.key ++ '"' :: (e.tail ++ e.valuePadding.after))

theorem tail_append (e : Entry) (rest : List Symbol) :
    e.tail.map some ++ rest = e.keyPadding.after.map some ++ some ':' ::
      (e.valuePadding.before.map some ++ (e.value.map some ++ rest)) := by
  simp [tail]

theorem length_value_le (e : Entry) : e.value.length ≤ e.chars.length := by
  simp only [chars, tail, List.length_append, List.length_cons]
  omega

theorem chars_ne_nil (e : Entry) : e.chars ≠ [] := by
  simp [chars]

/-- A member as the printer writes it. -/
def printed (key : String) (value : List Char) : Entry :=
  ⟨.none, key.toList.flatMap escapeChar, .none, value⟩

theorem chars_printed (key : String) (value : List Char) :
    (printed key value).chars = memberChars key value := by
  simp [printed, chars, tail, memberChars, textChars, Padding.none]

end Entry

section Members

variable {κ σ : Type} {key : Reader κ} {member : κ → σ → Reader σ}

/-- Whether reading a member takes one state to another. -/
def Takes (key : Reader κ) (member : κ → σ → Reader σ) (s : σ) (e : Entry) (s' : σ) : Prop :=
  ∃ k, (∀ rest, key (e.key.map some ++ some '"' :: rest) = .ok (k, rest)) ∧
    Reads (member k s) e.tail s'

theorem Takes.congr {s s' s'' : σ} {e : Entry} (h : Takes key member s e s') (heq : s' = s'') :
    Takes key member s e s'' := heq ▸ h

/-- Whether reading members, one after the other, takes one state to another. -/
inductive Gathers (key : Reader κ) (member : κ → σ → Reader σ) : σ → List Entry → σ → Prop
  | nil (s : σ) : Gathers key member s [] s
  | cons {s s' s'' : σ} {e : Entry} {es : List Entry} (h : Takes key member s e s')
      (hes : Gathers key member s' es s'') : Gathers key member s (e :: es) s''

theorem members_closing (bound : Nat) (first : Bool) (s : σ) {blank : List Char}
    (hblank : IsBlank blank) (rest : List Symbol) :
    members key member (bound + 1) first s (blank.map some ++ some '\x7d' :: rest) =
      .ok (s, rest) := by
  rw [members, skipSpace_of_blank hblank, skipSpace_of_not_space (by decide)]
  rfl

theorem skipSpace_chars (e : Entry) (tail : List Symbol) :
    skipSpace (e.chars.map some ++ tail) = some '"' :: (e.key.map some ++ some '"' ::
      (e.tail.map some ++ (e.valuePadding.after.map some ++ tail))) := by
  rw [Entry.chars, List.map_append, List.append_assoc, skipSpace_of_blank e.keyPadding.before_blank,
    List.map_cons, List.cons_append, skipSpace_of_not_space (by decide)]
  simp

theorem members_first {s s' : σ} {e : Entry} (h : Takes key member s e s') (bound : Nat)
    {tail : List Symbol} (htail : Delimited tail) :
    members key member (bound + 1) true s (e.chars.map some ++ tail) =
      members key member bound false s' (e.valuePadding.after.map some ++ tail) := by
  obtain ⟨k, hkey, hmember⟩ := h
  have hvalue := hmember _ (delimited_of_blank e.valuePadding.after_blank htail)
  rw [members, skipSpace_chars]
  simp only [if_true, hkey, hvalue]
  rfl

theorem members_next (s : σ) (e : Entry) (bound : Nat) {blank : List Char}
    (hblank : IsBlank blank) (tail : List Symbol) :
    members key member (bound + 1) false s
        (blank.map some ++ some ',' :: (e.chars.map some ++ tail)) =
      members key member (bound + 1) true s (e.chars.map some ++ tail) := by
  rw [members, members, skipSpace_chars, skipSpace_of_blank hblank,
    skipSpace_of_not_space (by decide)]
  simp only [skipSpace_chars]
  rfl

theorem members_remainder {s s' : σ} {es : List Entry} (h : Gathers key member s es s')
    {bound : Nat} (hbound : es.length < bound) {blank : List Char} (hblank : IsBlank blank)
    (rest : List Symbol) :
    members key member bound false s
        (blank.map some ++ ((remainder '\x7d' (es.map Entry.chars)).map some ++ rest)) =
      .ok (s', rest) := by
  induction h generalizing bound blank with
  | nil s =>
      obtain ⟨bound, rfl⟩ := Nat.exists_eq_succ_of_ne_zero (Nat.ne_zero_of_lt hbound)
      exact members_closing bound false s hblank rest
  | @cons s s₁ s' e es he _ ih =>
      obtain ⟨bound, rfl⟩ := Nat.exists_eq_succ_of_ne_zero (Nat.ne_zero_of_lt hbound)
      have htail := delimited_remainder '\x7d' (by decide) (es.map Entry.chars) rest
      rw [List.map_cons, remainder, List.map_cons, List.map_append, List.cons_append,
        List.append_assoc, members_next s e bound hblank, members_first he bound htail]
      exact ih (Nat.lt_of_succ_lt_succ hbound) e.valuePadding.after_blank

theorem members_commaSeparated {s s' : σ} {es : List Entry} (h : Gathers key member s es s')
    {bound : Nat} (hbound : es.length < bound) (rest : List Symbol) :
    members key member bound true s
        ((commaSeparated (es.map Entry.chars) ++ ['\x7d']).map some ++ rest) = .ok (s', rest) := by
  obtain ⟨bound, rfl⟩ := Nat.exists_eq_succ_of_ne_zero (Nat.ne_zero_of_lt hbound)
  cases h with
  | nil => exact members_closing bound true s isBlank_nil rest
  | @cons s s₁ s' e es he h =>
      have htail := delimited_remainder '\x7d' (by decide) (es.map Entry.chars) rest
      rw [List.map_cons, commaSeparated_append, List.map_append, List.append_assoc,
        members_first he bound htail]
      exact members_remainder h (Nat.lt_of_succ_lt_succ hbound) e.valuePadding.after_blank rest

/-- An object is read member after member, whatever the text that stands after its brace. -/
theorem members_of_gathers {s s' : σ} {es : List Entry} (h : Gathers key member s es s')
    (rest : List Symbol) {input : List Symbol}
    (hinput : (objectChars (es.map Entry.chars)).map some ++ rest = some '\x7b' :: input) :
    members key member (input.length + 1) true s input = .ok (s', rest) := by
  have htexts : ∀ t ∈ es.map Entry.chars, t ≠ [] := by
    intro t ht
    obtain ⟨e, -, rfl⟩ := List.mem_map.1 ht
    exact e.chars_ne_nil
  have hcount := count_le_commaSeparated htexts
  obtain rfl : (commaSeparated (es.map Entry.chars) ++ ['\x7d']).map some ++ rest = input :=
    (List.cons.inj hinput).2
  apply members_commaSeparated h
  simp only [List.length_map, List.length_append] at hcount ⊢
  omega

end Members

end MetricWatch.Json
