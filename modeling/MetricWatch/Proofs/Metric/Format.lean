import MetricWatch.Metric.Json
import MetricWatch.Proofs.Json.Doubles

/-!
The text format of samples. A sample is read back as it was written but for its value, which is read
back as the reader's roundings have it.
-/

namespace MetricWatch

open Json (Reads Entry Gathers Rereads)

namespace Sample

/-- The error of a sample as it is written, if it has one. -/
def errorEntries (error : Option String) : List Entry :=
  (error.map fun e => Entry.printed "error" (Json.textChars e)).toList

/-- The members of a sample as they are written. -/
def entries (s : Sample) : List Entry :=
  [.printed "label" (Json.textChars s.label),
    .printed "timestamp" (Json.naturalChars s.timestamp.toNat),
    .printed "value" (Json.optionChars Json.doubleChars s.value)] ++ errorEntries s.error

theorem jsonChars_eq (s : Sample) : s.jsonChars = Json.objectChars (s.entries.map Entry.chars) := by
  rw [jsonChars, entries, errorEntries, List.map_append, List.map_cons, List.map_cons, List.map_cons,
    List.map_nil, Entry.chars_printed, Entry.chars_printed, Entry.chars_printed]
  cases s.error with
  | none => rfl
  | some e =>
      rw [Option.map_some, Option.toList_some, List.map_singleton, Entry.chars_printed]
      rfl

/-- What has been read of a sample in the end. -/
def draft (s : Sample) : Draft where
  label := some s.label
  timestamp := some s.timestamp
  value := some s.value
  error := s.error.map some

theorem finish_draft (s : Sample) : s.draft.finish = .ok s := by
  obtain ⟨label, timestamp, value, error⟩ := s
  cases error <;> rfl

theorem gathers_error {d : Draft} (h : d.error = none) (error : Option String) :
    Gathers Json.textBody record.readMember d (errorEntries error) { d with error := error.map some } := by
  cases error with
  | none =>
      rw [Option.map_none, ← h]
      exact .nil d
  | some e =>
      have hreads : Reads (Json.optional Json.text) (Json.textChars e) (some e) :=
        Json.reads_optional (Json.reads_text e) ⟨'"', _, rfl, by decide, by decide⟩
      have hgiven : d.error.isSome = false := by rw [h, Option.isSome_none]
      exact .cons (Json.takes_stored record "error" rfl hgiven hreads) (.nil _)

theorem gathers_entries (s : Sample) {value : Option Float}
    (hvalue : Reads (Json.optional Json.double) (Json.optionChars Json.doubleChars s.value) value) :
    Gathers Json.textBody record.readMember {} s.entries (draft { s with value }) :=
  .cons (Json.takes_stored record "label" rfl rfl (Json.reads_text s.label))
    (.cons (Json.takes_stored record "timestamp" rfl rfl (Json.reads_word64 s.timestamp))
      (.cons (Json.takes_stored record "value" rfl rfl hvalue) (gathers_error rfl s.error)))

/-- A sample without a value, or with a finite one, is read back with its label, its timestamp, its error
and a value if it has one. The value is exact while its digits and their power of ten are themselves
doubles, and elsewhere fewer than five units in the last place away. -/
theorem parse_rereads (s : Sample) (h : ∀ v ∈ s.value, v.isFinite = true) :
    ∃ value, parse (String.ofList s.jsonChars) = .ok { s with value } ∧
      Option.Rel Rereads s.value value := by
  obtain ⟨value, hvalue, hrereads⟩ := Json.reads_optional_double h
  have hread := Json.reads_record Draft.finish (s.gathers_entries hvalue) (finish_draft _)
  refine ⟨value, ?_, hrereads⟩
  rw [parse, jsonChars_eq]
  exact Json.whole_of_reads hread

/-- A sample whose value has few digits. -/
def tenth : Sample := .ok "L1" 1 0.1

/-- The text of that sample. -/
def tenthText : String := "\x7b\"label\":\"L1\",\"timestamp\":1,\"value\":0.1\x7d"

theorem parse_tenth : (∀ v ∈ tenth.value, v.isFinite = true) ∧ parse tenthText = .ok tenth := by
  have htext : String.ofList tenth.jsonChars = tenthText := by decide +kernel
  have hfinite : ∀ v ∈ tenth.value, v.isFinite = true := by decide +kernel
  obtain ⟨value, hparse, hrereads⟩ := tenth.parse_rereads hfinite
  have hdigits : (Json.printed 0.1).digits = 1 * 2 ^ 0 := by decide +kernel
  have hplaces : (Json.printed 0.1).places.natAbs ≤ 22 := by decide +kernel
  refine ⟨hfinite, ?_⟩
  rw [htext] at hparse
  cases hrereads with
  | some h =>
      rw [h.exact 1 0 (by decide) hdigits hplaces] at hparse
      exact hparse

/-- A sample whose value is a whole number, and is written with seventeen digits. -/
def wholeNumber : Sample := .ok "L1" 1 7205759403792796.0

/-- Its value is read back as the next double. -/
theorem parse_wholeNumber : (∀ v ∈ wholeNumber.value, v.isFinite = true) ∧
    (parse (String.ofList wholeNumber.jsonChars)).toOption =
      some { wholeNumber with value := some 7205759403792797.0 } ∧
    parse (String.ofList wholeNumber.jsonChars) ≠ .ok wholeNumber := by
  have hread : (parse (String.ofList wholeNumber.jsonChars)).toOption =
      some { wholeNumber with value := some 7205759403792797.0 } := by
    decide +kernel
  refine ⟨by decide +kernel, hread, ?_⟩
  intro h
  rw [h] at hread
  exact absurd (Option.some.inj hread) (by decide +kernel)

end Sample

end MetricWatch
