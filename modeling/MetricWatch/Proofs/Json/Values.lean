import MetricWatch.Json.Value
import MetricWatch.Proofs.Json.Records

/-!
Reading values of any shape. Of an object's members no order is kept, and of two with one name only the
last.
-/

namespace MetricWatch.LabelMap

variable {α : Type}

theorem insertEntry_perm {label : String} (value : α) {l : List (String × α)}
    (h : label ∉ l.map (·.1)) : (insertEntry label value l).Perm ((label, value) :: l) := by
  induction l with
  | nil => exact .refl _
  | cons e l ih =>
      obtain ⟨hne, hl⟩ := List.ne_and_not_mem_of_not_mem_cons h
      rw [insertEntry]
      split
      · exact .refl _
      · rw [if_neg (Ne.symm hne)]
        exact ((ih hl).cons e).trans (.swap _ _ l)

end MetricWatch.LabelMap

namespace MetricWatch.Json

namespace Value

/-- Reads what follows a key of an object. -/
def takeMember (depth : Nat) (key : String) (entries : List (String × Value)) :
    Reader (List (String × Value)) := fun input => do
  let rest ← colon input
  let (value, rest) ← readWithin depth rest
  .ok (LabelMap.insertEntry key value entries, rest)

/-- What is kept of members when they follow others. -/
def gathered (entries members : List (String × Value)) : List (String × Value) :=
  members.foldl (fun entries e => LabelMap.insertEntry e.1 e.2 entries) entries

/-- Members of different names are all kept. -/
theorem gathered_perm {entries members : List (String × Value)}
    (h : (members.map (·.1)).Nodup) (hnew : ∀ e ∈ members, e.1 ∉ entries.map (·.1)) :
    (gathered entries members).Perm (members ++ entries) := by
  induction members generalizing entries with
  | nil => exact .refl _
  | cons e members ih =>
      obtain ⟨hfirst, hmembers⟩ := List.nodup_cons.1 h
      obtain ⟨he, hnew⟩ := List.forall_mem_cons.1 hnew
      have hinsert := LabelMap.insertEntry_perm e.2 he
      have hlater : ∀ e' ∈ members, e'.1 ∉ (LabelMap.insertEntry e.1 e.2 entries).map (·.1) := by
        intro e' he' hmem
        rcases List.mem_cons.1 ((hinsert.map _).mem_iff.1 hmem) with heq | hmem
        · exact hfirst (List.mem_map.2 ⟨e', he', heq⟩)
        · exact hnew e' he' hmem
      exact (ih hmembers hlater).trans ((hinsert.append_left members).trans List.perm_middle)

theorem entryChars_eq_map (members : List (String × Value)) :
    entryChars members = members.map fun e => memberChars e.1 e.2.chars := by
  induction members with
  | nil => rfl
  | cons e members ih => rw [entryChars, ih, List.map_cons]

/-- An object of the given members as the printer writes it. -/
theorem chars_object (members : List (String × Value)) :
    (object members).chars =
      objectChars ((members.map fun e => Entry.printed e.1 e.2.chars).map Entry.chars) := by
  rw [chars, entryChars_eq_map, List.map_map]
  exact congrArg objectChars (List.map_congr_left fun e _ => (Entry.chars_printed e.1 e.2.chars).symm)

theorem reads_text (depth : Nat) (s : String) : Reads (readWithin depth) (textChars s) (text s) := by
  rintro rest -
  rw [textChars_append, readWithin.eq_def, skipSpace_of_not_space (by decide)]
  simp only [Option.some.injEq, Char.reduceEq, if_false, if_true, textBody_escaped, map_ok]

theorem takes_member {depth : Nat} {value : List Char} {x : Value}
    (h : Reads (readWithin depth) value x) (key : String) (entries : List (String × Value)) :
    Takes textBody (takeMember depth) entries (.printed key value)
      (LabelMap.insertEntry key x entries) := by
  refine ⟨key, textBody_escaped key, ?_⟩
  intro rest hrest
  have htail : (Entry.printed key value).tail.map some ++ rest =
      some ':' :: (value.map some ++ rest) := rfl
  have hcolon := colon_of_blank isBlank_nil (value.map some ++ rest)
  rw [List.map_nil, List.nil_append] at hcolon
  rw [htail, takeMember]
  simp only [hcolon, ok_bind, h rest hrest]

theorem gathers_members {depth : Nat} {members : List (String × Value)}
    (h : ∀ e ∈ members, Reads (readWithin depth) e.2.chars e.2) (entries : List (String × Value)) :
    Gathers textBody (takeMember depth) entries (members.map fun e => .printed e.1 e.2.chars)
      (gathered entries members) := by
  induction members generalizing entries with
  | nil => exact .nil entries
  | cons e members ih =>
      obtain ⟨he, hmembers⟩ := List.forall_mem_cons.1 h
      exact .cons (takes_member he e.1 entries) (ih hmembers _)

theorem reads_object {depth : Nat} {members : List (String × Value)}
    (h : ∀ e ∈ members, Reads (readWithin depth) e.2.chars e.2) :
    Reads (readWithin (depth + 1)) (object members).chars (object (gathered [] members)) := by
  rintro rest -
  rw [chars_object]
  have hinput : (objectChars ((members.map fun e => Entry.printed e.1 e.2.chars).map
      Entry.chars)).map some ++ rest = some '\x7b' :: ((commaSeparated
        ((members.map fun e => Entry.printed e.1 e.2.chars).map Entry.chars) ++ ['\x7d']).map some ++
          rest) := rfl
  have hmembers := members_of_gathers (gathers_members h []) rest hinput
  have hdigit : beginsNumber (some '\x7b') = false := by decide
  rw [hinput, readWithin.eq_def, skipSpace_of_not_space (by decide)]
  simp only [Option.some.injEq, Char.reduceEq, if_false, if_true, hdigit, Bool.false_eq_true]
  exact congrArg (Except.map _) hmembers

/-- An object of texts under different names is read back as it was written, but for the order. -/
theorem parse_object {members : List (String × Value)}
    (h : ∀ e ∈ members, ∃ s, e.2 = text s) (hnames : (members.map (·.1)).Nodup) :
    ∃ members', parse (String.ofList (object members).chars) = .ok (object members') ∧
      members'.Perm members := by
  have hreads : ∀ e ∈ members, Reads (readWithin 126) e.2.chars e.2 := by
    intro e he
    obtain ⟨s, hs⟩ := h e he
    rw [hs, chars]
    exact reads_text 126 s
  refine ⟨gathered [] members, whole_of_reads (reads_object hreads), ?_⟩
  have hperm := @gathered_perm [] members hnames fun e _ => List.not_mem_nil
  rwa [List.append_nil] at hperm

end Value

end MetricWatch.Json
