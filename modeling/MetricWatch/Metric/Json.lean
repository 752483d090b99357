import MetricWatch.Json.Printer
import MetricWatch.Json.Record
import MetricWatch.Metric.Definition
import MetricWatch.Metric.Sample

/-!
Windows, figures, definitions, samples and warnings as JSON: for each a reader, and beside it what
writes it.
-/

namespace MetricWatch

open Json (Reader Record Field Problem Fault)

namespace Window

/-- Reads a window by its path segment. -/
def read : Reader Window := Json.variant named

/-- A window as it is written. -/
def jsonChars (w : Window) : List Char := Json.textChars w.segment

/-- The window that a text holds. -/
def parse (s : String) : Except Fault Window := Json.whole read (Json.symbols s)

end Window

namespace Aggregate

/-- Reads a figure by its path segment. -/
def read : Reader Aggregate := Json.variant named

/-- A figure as it is written. -/
def jsonChars (a : Aggregate) : List Char := Json.textChars a.segment

/-- The figure that a text holds. -/
def parse (s : String) : Except Fault Aggregate := Json.whole read (Json.symbols s)

end Aggregate

namespace Definition

/-- The members of a definition that have been read. -/
structure Draft where
  name : Option String := none
  path : Option String := none
  label : Option String := none

/-- A definition's members. They are taken in as they stand before they are checked. -/
def record : Record Draft where
  name := "RawDefinition"
  fields := [
    .storing "name" (·.name.isSome) Json.text fun d x => { d with name := some x },
    .storing "window_path" (·.path.isSome) Json.text fun d x => { d with path := some x },
    .storing "label" (·.label.isSome) Json.text fun d x => { d with label := some x }]

/-- The texts of a complete draft. -/
def Draft.finish (d : Draft) : Except Problem (String × String × String) := do
  let name ← Json.require "name" d.name
  let path ← Json.require "window_path" d.path
  let label ← Json.require "label" d.label
  .ok (name, path, label)

/-- Reads a definition. Blank texts are refused once all members are known. -/
def read : Reader Definition := fun input => do
  let ((name, path, label), rest) ← record.read {} Draft.finish input
  match make name path label with
  | .ok d => .ok (d, rest)
  | .error e => .error (.unfit (.refused e.message))

/-- A definition as it is written. -/
def jsonChars (d : Definition) : List Char :=
  Json.objectChars [
    Json.memberChars "name" (Json.textChars d.name),
    Json.memberChars "window_path" (Json.textChars d.path),
    Json.memberChars "label" (Json.textChars d.label)]

/-- The definition that a text holds. -/
def parse (s : String) : Except Fault Definition := Json.whole read (Json.symbols s)

end Definition

namespace Sample

/-- The members of a sample that have been read. -/
structure Draft where
  label : Option String := none
  timestamp : Option UInt64 := none
  value : Option (Option Float) := none
  error : Option (Option String) := none

/-- A sample's members. Only the error may be left out of a list. -/
def record : Record Draft where
  name := "Sample"
  fields := [
    .storing "label" (·.label.isSome) Json.text fun d x => { d with label := some x },
    .storing "timestamp" (·.timestamp.isSome) Json.word64 fun d x =>
      { d with timestamp := some x },
    .storing "value" (·.value.isSome) (Json.optional Json.double) fun d x =>
      { d with value := some x },
    .storing "error" (·.error.isSome) (Json.optional Json.text)
      (fun d x => { d with error := some x })
      true]

/-- The sample of a complete draft. Value and error may be missing. -/
def Draft.finish (d : Draft) : Except Problem Sample := do
  let label ← Json.require "label" d.label
  let timestamp ← Json.require "timestamp" d.timestamp
  .ok { label, timestamp, value := d.value.getD none, error := d.error.getD none }

/-- Reads a sample. -/
def read : Reader Sample := record.read {} Draft.finish

/-- A sample as it is written. An absent error is left out, an absent value is not. -/
def jsonChars (s : Sample) : List Char :=
  Json.objectChars ([
    Json.memberChars "label" (Json.textChars s.label),
    Json.memberChars "timestamp" (Json.naturalChars s.timestamp.toNat),
    Json.memberChars "value" (Json.optionChars Json.doubleChars s.value)] ++
    Json.optionalMember "error" Json.textChars s.error)

/-- The sample that a text holds. -/
def parse (s : String) : Except Fault Sample := Json.whole read (Json.symbols s)

end Sample

namespace Warning

/-- The members of a warning that have been read. -/
structure Draft where
  label : Option String := none
  failures : Option UInt32 := none
  lastError : Option (Option String) := none
  timestamp : Option UInt64 := none

/-- A warning's members. -/
def record : Record Draft where
  name := "DegradedMetricWarning"
  fields := [
    .storing "label" (·.label.isSome) Json.text fun d x => { d with label := some x },
    .storing "consecutive_failures" (·.failures.isSome) Json.word32 fun d x =>
      { d with failures := some x },
    .storing "last_error" (·.lastError.isSome) (Json.optional Json.text) fun d x =>
      { d with lastError := some x },
    .storing "timestamp" (·.timestamp.isSome) Json.word64 fun d x =>
      { d with timestamp := some x }]

/-- The warning of a complete draft. Only the last error may be missing. -/
def Draft.finish (d : Draft) : Except Problem Warning := do
  let label ← Json.require "label" d.label
  let failures ← Json.require "consecutive_failures" d.failures
  let timestamp ← Json.require "timestamp" d.timestamp
  .ok { label, failures, lastError := d.lastError.getD none, timestamp }

/-- Reads a warning. -/
def read : Reader Warning := record.read {} Draft.finish

/-- A warning as it is written. -/
def jsonChars (w : Warning) : List Char :=
  Json.objectChars [
    Json.memberChars "label" (Json.textChars w.label),
    Json.memberChars "consecutive_failures" (Json.naturalChars w.failures.toNat),
    Json.memberChars "last_error" (Json.optionChars Json.textChars w.lastError),
    Json.memberChars "timestamp" (Json.naturalChars w.timestamp.toNat)]

/-- The warning that a text holds. -/
def parse (s : String) : Except Fault Warning := Json.whole read (Json.symbols s)

end Warning

end MetricWatch
