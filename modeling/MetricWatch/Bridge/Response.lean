import MetricWatch.Error
import MetricWatch.Json.Record
import MetricWatch.Text.Blank

/-!
What the bridge replies. Whatever the request's own status, the outcome of the read stands in the
reply: a status of its own, and a value or what went wrong.
-/

namespace MetricWatch

open Json (Reader Record Problem Fault)

/-- A reply of the bridge. -/
structure ReadResponse where
  status : UInt16
  value : Option Json.Value := none
  error : Option String := none
  errorType : Option String := none

namespace ReadResponse

/-- The members of a reply that have been read. -/
structure Draft where
  status : Option UInt16 := none
  value : Option (Option Json.Value) := none
  error : Option (Option String) := none
  errorType : Option (Option String) := none

/-- A reply's members. All but the status may be left out. The value stands inside one object
already. -/
def record : Record Draft where
  name := "ReadResponse"
  fields := [
    .storing "status" (·.status.isSome) Json.word16 fun d x => { d with status := some x },
    .storing "value" (·.value.isSome)
      (Json.optional (Json.Value.readWithin (Json.depthLimit - 1)))
      (fun d x => { d with value := some x }) true,
    .storing "error" (·.error.isSome) (Json.optional Json.text)
      (fun d x => { d with error := some x }) true,
    .storing "error_type" (·.errorType.isSome) (Json.optional Json.text)
      (fun d x => { d with errorType := some x }) true]

/-- The reply of a complete draft. -/
def Draft.finish (d : Draft) : Except Problem ReadResponse := do
  let status ← Json.require "status" d.status
  .ok {
    status
    value := d.value.getD none
    error := d.error.getD none
    errorType := d.errorType.getD none }

/-- Reads a reply. -/
def read : Reader ReadResponse := record.read {} Draft.finish

/-- The reply that a text holds. -/
def parse (s : String) : Except Fault ReadResponse := Json.whole read (Json.symbols s)

/-- The reply that some bytes hold. -/
def ofBytes (bytes : List UInt8) : Except Fault ReadResponse :=
  Json.whole read (Json.decode bytes)

/-- The status of a read that went well. -/
def okStatus : UInt16 := 200

/-- The number that a reply holds: a JSON number, or a text that names a number between blanks. -/
def toNumber (r : ReadResponse) : Except Error Float :=
  if r.status ≠ okStatus then
    .error (.bridge r.status ((r.error <|> r.errorType).getD "no error message"))
  else
    match r.value with
    | some (.number n) => .ok n.toFloat
    | some (.text s) =>
      match Decimal.float? (Text.trimChars s.toList) with
      | some x => .ok x
      | none => .error (.invalidResponse (.notNumericText s))
    | some value => .error (.invalidResponse (.notNumeric value))
    | none => .error (.invalidResponse .noValue)

end ReadResponse

end MetricWatch
