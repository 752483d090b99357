import MetricWatch.Json.Number
import MetricWatch.Text.Quoted

/-!
What can be wrong with a JSON text that is read as a value of some type. Reading goes from left to
right and stops at the first fault.
-/

namespace MetricWatch.Json

/-- What stood where a value of another type was wanted. -/
inductive Found where
  | null
  | boolean (b : Bool)
  | number (n : Number)
  | text (s : String)
  | sequence
  | map

/-- What was wanted. -/
inductive Expected where
  | text
  | word (bits : Nat)
  | double
  | sequence
  | nothing
  | record (name : String)
  | elements (name : String) (count : Nat)

/-- Why a well-formed text is not a value of the type that it is read as. -/
inductive Problem where
  | invalidType (found : Found) (expected : Expected)
  | invalidValue (found : Found) (expected : Expected)
  | invalidLength (length : Nat) (expected : Expected)
  | unknownVariant (name : String) (known : List String)
  | missingField (name : String)
  | duplicateField (name : String)
  /-- The value was refused for a reason of its own type. -/
  | refused (reason : String)

/-- The first fault of a text. -/
inductive Fault where
  /-- The text ends too early. -/
  | truncated
  /-- The text is not JSON, or holds a number or a nesting that is too large. -/
  | malformed
  /-- The text does not fit the type that it is read as. -/
  | unfit (problem : Problem)

/-- A name as it is set off in a message. -/
def ticked (s : String) : String := "`" ++ s ++ "`"

/-- What a number is called in a message. -/
def Number.description (n : Number) : String :=
  match n with
  | .double x => "floating point " ++ ticked (String.ofList (doubleChars x))
  | .natural _ | .negative _ => "integer " ++ ticked (String.ofList n.chars)

/-- What was found, in words. -/
def Found.description : Found → String
  | null => "null"
  | boolean b => "boolean " ++ ticked (if b then "true" else "false")
  | number n => n.description
  | text s => "string " ++ Text.quoted s
  | sequence => "sequence"
  | map => "map"

/-- What was wanted, in words. -/
def Expected.description : Expected → String
  | text => "a string"
  | word bits => "u" ++ toString bits
  | double => "f64"
  | sequence => "a sequence"
  | nothing => "unit"
  | record name => "struct " ++ name
  | elements name count => "struct " ++ name ++ " with " ++ toString count ++ " elements"

/-- A problem in words. -/
def Problem.message : Problem → String
  | invalidType found expected =>
    "invalid type: " ++ found.description ++ ", expected " ++ expected.description
  | invalidValue found expected =>
    "invalid value: " ++ found.description ++ ", expected " ++ expected.description
  | invalidLength length expected =>
    "invalid length " ++ toString length ++ ", expected " ++ expected.description
  | unknownVariant name known =>
    "unknown variant " ++ ticked name ++ ", expected one of " ++
      String.intercalate ", " (known.map ticked)
  | missingField name => "missing field " ++ ticked name
  | duplicateField name => "duplicate field " ++ ticked name
  | refused reason => reason

end MetricWatch.Json
