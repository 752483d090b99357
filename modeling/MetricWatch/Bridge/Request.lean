import MetricWatch.Json.Printer

/-!
What is posted to the bridge to read an attribute of a bean, or a value at a path inside it.
-/

namespace MetricWatch

/-- A request to read an attribute. -/
structure ReadRequest where
  mbean : String
  attr : String
  path : Option String
  deriving DecidableEq, Repr

namespace ReadRequest

/-- The request for an attribute. An empty path is the same as none. -/
def make (mbean attr : String) (path : Option String) : ReadRequest :=
  { mbean, attr, path := path.filter (· ≠ "") }

/-- A request as it is written. -/
def jsonChars (r : ReadRequest) : List Char :=
  Json.objectChars ([
    Json.memberChars "type" (Json.textChars "read"),
    Json.memberChars "mbean" (Json.textChars r.mbean),
    Json.memberChars "attribute" (Json.textChars r.attr)] ++
    Json.optionalMember "path" Json.textChars r.path)

/-- A request as it is written. -/
def jsonText (r : ReadRequest) : String := String.ofList r.jsonChars

end ReadRequest

end MetricWatch
