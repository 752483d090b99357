import MetricWatch.Json.Record
import MetricWatch.Proofs.Json.Skip

/-!
Reading what the printer writes: texts, lists and the members of records, and passing over the members
that a record does not know.
-/

namespace MetricWatch.Json

theorem begins_objectChars (members : List (List Char)) : Begins (objectChars members) :=
  ⟨'\x7b', _, rfl, by decide, by decide⟩

theorem textChars_append (s : String) (rest : List Symbol) :
    (textChars s).map some ++ rest =
      some '"' :: ((s.toList.flatMap escapeChar).map some ++ some '"' :: rest) := by
  simp [textChars]

theorem textBody_escaped (s : String) (rest : List Symbol) :
    textBody ((s.toList.flatMap escapeChar).map some ++ some '"' :: rest) = .ok (s, rest) := by
  rw [textBody_of_spells (spells_escaped s.toList), String.ofList_toList]

theorem reads_text (s : String) : Reads text (textChars s) s := by
  rintro rest -
  rw [textChars_append, text, skipSpace_of_not_space (by decide)]
  exact textBody_escaped s rest

theorem reads_optional_null {α : Type} (reader : Reader α) :
    Reads (optional reader) nullChars none := by
  rintro rest -
  have hinput : nullChars.map some ++ rest = some 'n' :: ([some 'u', some 'l', some 'l'] ++ rest) := rfl
  rw [hinput, optional, skipSpace_of_not_space (by decide)]
  rfl

/-- What does not begin as the word for an absent value is read as a present one. -/
theorem reads_optional {α : Type} {reader : Reader α} {cs : List Char} {x : α} (h : Reads reader cs x)
    (hbegins : ∃ c cs', cs = c :: cs' ∧ isSpace (some c) = false ∧ c ≠ 'n') :
    Reads (optional reader) cs (some x) := by
  intro rest hrest
  have hread := h rest hrest
  obtain ⟨c, cs, rfl, hspace, hc⟩ := hbegins
  rw [List.map_cons, List.cons_append] at hread ⊢
  unfold optional
  rw [skipSpace_of_not_space hspace]
  split
  · rename_i hinput
    exact absurd (Option.some.inj (List.cons.inj hinput).1) hc
  · rw [hread]
    rfl

/-- A known value is read by its name. -/
theorem reads_variant {α : Type} {known : List (String × α)} {name : String} {x : α}
    (h : known.lookup name = some x) : Reads (variant known) (textChars name) x := by
  rintro rest -
  have hname : variantName known ((textChars name).map some ++ rest) = .ok (x, rest) := by
    rw [textChars_append, variantName, skipSpace_of_not_space (by decide)]
    simp only [if_true, textBody_escaped, ok_bind, h]
  rw [textChars_append] at hname ⊢
  rw [variant, skipSpace_of_not_space (by decide)]
  exact hname

theorem reads_list {α : Type} {item : Reader α} {chars : α → List Char} (xs : List α)
    (h : ∀ x ∈ xs, Reads item (chars x) x ∧ Begins (chars x)) :
    Reads (list item) (listChars (xs.map chars)) xs := by
  rintro rest -
  have hitems : List.Forall₂ (ReadsItem item) (xs.map fun x => (Padding.none, chars x)) xs := by
    rw [List.forall₂_map_left_iff, List.forall₂_same]
    exact h
  have htexts : xs.map chars = (xs.map fun x => (Padding.none, chars x)).map itemText := by
    rw [List.map_map]
    exact List.map_congr_left fun x _ => (Padding.none_around (chars x)).symm
  rw [htexts]
  exact items_of_forall hitems rest rfl

theorem whole_of_reads {α : Type} {reader : Reader α} {cs : List Char} {x : α}
    (h : Reads reader cs x) : whole reader (symbols (String.ofList cs)) = .ok x := by
  have hread := h [] delimited_nil
  rw [List.append_nil] at hread
  rw [symbols, String.toList_ofList, whole, hread]
  rfl

/-! ## Records -/

section Record

variable {σ : Type} {record : Record σ}

/-- A member that the record knows is stored. -/
theorem takes_stored (record : Record σ) {α : Type} (name : String) {given : σ → Bool} {reader : Reader α}
    {store : σ → α → σ} {mayEnd : Bool}
    (hfield : record.fields.find? (fun field => field.name = name) =
      some (.storing name given reader store mayEnd))
    {draft : σ} (hgiven : given draft = false) {value : List Char} {x : α}
    (hvalue : Reads reader value x) :
    Takes textBody record.readMember draft (.printed name value) (store draft x) := by
  refine ⟨name, textBody_escaped name, ?_⟩
  intro rest hrest
  have htail : (Entry.printed name value).tail.map some ++ rest =
      some ':' :: (value.map some ++ rest) := rfl
  have hcolon := colon_of_blank isBlank_nil (value.map some ++ rest)
  rw [List.map_nil, List.nil_append] at hcolon
  rw [htail, Record.readMember, hfield]
  simp only [Field.storing, hgiven, Bool.false_eq_true, if_false, hcolon, ok_bind,
    hvalue rest hrest, map_ok]

/-- A member that the record does not know changes nothing. -/
theorem takes_unknown {e : Entry} {name : List Char} (hkey : Spells e.key name)
    (hname : ∀ field ∈ record.fields, field.name ≠ String.ofList name) (hvalue : IsValue e.value)
    (draft : σ) : Takes textBody record.readMember draft e draft := by
  refine ⟨String.ofList name, textBody_of_spells hkey, ?_⟩
  intro rest hrest
  have hfield : record.fields.find? (fun field => field.name = String.ofList name) = none := by
    rw [List.find?_eq_none]
    exact fun field hmem => by simpa using hname field hmem
  rw [Entry.tail_append, Record.readMember, hfield]
  simp only [colon_of_blank e.keyPadding.after_blank, ok_bind,
    skip_of_isValue hvalue e.valuePadding.before_blank hrest]

/-- A record is read once its members have been gathered. -/
theorem reads_record {τ : Type} {empty draft : σ} (finish : σ → Except Problem τ) {x : τ}
    {es : List Entry} (h : Gathers textBody record.readMember empty es draft)
    (hfinish : finish draft = .ok x) :
    Reads (record.read empty finish) (objectChars (es.map Entry.chars)) x := by
  rintro rest -
  have hinput : (objectChars (es.map Entry.chars)).map some ++ rest = some '\x7b' ::
      ((commaSeparated (es.map Entry.chars) ++ ['\x7d']).map some ++ rest) := rfl
  have hmembers := members_of_gathers h rest hinput
  rw [hinput, Record.read, skipSpace_of_not_space (by decide)]
  simp only [Option.some.injEq, Char.reduceEq, if_false, if_true, hmembers, ok_bind, hfinish]

end Record

end MetricWatch.Json
