import MetricWatch.LabelMap
import MetricWatch.Json.Printer
import MetricWatch.Json.Reader

/-!
JSON values of any shape. An object keeps the last of the members with one name, and its members
ascend by name.
-/

namespace MetricWatch.Json

/-- A JSON value. -/
inductive Value where
  | null
  | boolean (b : Bool)
  | number (n : Number)
  | text (s : String)
  | array (items : List Value)
  | object (members : List (String × Value))

namespace Value

/-- Reads a value that has at most `depth` lists and objects one inside the other. -/
def readWithin (depth : Nat) : Reader Value := fun input =>
  match skipSpace input with
  | [] => .error .truncated
  | s :: rest =>
    if s = some 'n' then (word ['u', 'l', 'l'] rest).map fun rest => (null, rest)
    else if s = some 't' then (word ['r', 'u', 'e'] rest).map fun rest => (boolean true, rest)
    else if s = some 'f' then
      (word ['a', 'l', 's', 'e'] rest).map fun rest => (boolean false, rest)
    else if s = some '"' then (textBody rest).map fun (s, rest) => (text s, rest)
    else if beginsNumber s then (Json.number (s :: rest)).map fun (n, rest) => (number n, rest)
    else
      match depth with
      | 0 => .error .malformed
      | depth + 1 =>
        if s = some '[' then
          (items (readWithin depth) (rest.length + 1) true rest).map fun (xs, rest) =>
            (array xs, rest)
        else if s = some '\x7b' then
          (members textBody
            (fun key entries input => do
              let rest ← colon input
              let (value, rest) ← readWithin depth rest
              .ok (LabelMap.insertEntry key value entries, rest))
            (rest.length + 1) true [] rest).map fun (entries, rest) => (object entries, rest)
        else .error .malformed

mutual

/-- A value as it is written. -/
def chars : Value → List Char
  | null => nullChars
  | boolean b => if b then ['t', 'r', 'u', 'e'] else ['f', 'a', 'l', 's', 'e']
  | number n => n.chars
  | text s => textChars s
  | array items => listChars (itemChars items)
  | object entries => objectChars (entryChars entries)

/-- The items of a list as they are written. -/
def itemChars : List Value → List (List Char)
  | [] => []
  | x :: rest => chars x :: itemChars rest

/-- The members of an object as they are written. -/
def entryChars : List (String × Value) → List (List Char)
  | [] => []
  | (key, x) :: rest => memberChars key (chars x) :: entryChars rest

end

end Value

/-- How many lists, objects and records may stand one inside the other in a text that is kept. -/
def depthLimit : Nat := 127

/-- The value that a text holds. -/
def Value.parse (s : String) : Except Fault Value := whole (readWithin depthLimit) (symbols s)

end MetricWatch.Json
