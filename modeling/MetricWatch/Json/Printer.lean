import MetricWatch.Json.Number

/-!
Writing JSON without white space. Inside a string only the quote, the backslash and the characters
below the space are escaped.
-/

namespace MetricWatch.Json

/-- The four hexadecimal digits of a number below 65536. -/
def fourHexDigits (n : Nat) : List Char :=
  let digits := Nat.toDigits 16 n
  List.replicate (4 - digits.length) '0' ++ digits

/-- One character as it stands inside a string. -/
def escapeChar (c : Char) : List Char :=
  if c = '"' then ['\\', '"']
  else if c = '\\' then ['\\', '\\']
  else if c = '\x08' then ['\\', 'b']
  else if c = '\x0c' then ['\\', 'f']
  else if c = '\n' then ['\\', 'n']
  else if c = '\r' then ['\\', 'r']
  else if c = '\t' then ['\\', 't']
  else if c.toNat < 0x20 then '\\' :: 'u' :: fourHexDigits c.toNat
  else [c]

/-- A text as a string. -/
def textChars (s : String) : List Char := '"' :: (s.toList.flatMap escapeChar ++ ['"'])

/-- Texts with a comma between every two. -/
def commaSeparated : List (List Char) → List Char
  | [] => []
  | [x] => x
  | x :: rest => x ++ ',' :: commaSeparated rest

/-- A list of values that are already written. -/
def listChars (items : List (List Char)) : List Char := '[' :: (commaSeparated items ++ [']'])

/-- A member of an object whose value is already written. -/
def memberChars (key : String) (value : List Char) : List Char := textChars key ++ ':' :: value

/-- An object of members that are already written. -/
def objectChars (members : List (List Char)) : List Char :=
  '\x7b' :: (commaSeparated members ++ ['\x7d'])

/-- The word for an absent value. -/
def nullChars : List Char := ['n', 'u', 'l', 'l']

/-- A value that may be absent. -/
def optionChars {α : Type} (chars : α → List Char) : Option α → List Char
  | none => nullChars
  | some x => chars x

/-- A member that is left out when its value is absent. -/
def optionalMember {α : Type} (key : String) (chars : α → List Char) :
    Option α → List (List Char)
  | none => []
  | some x => [memberChars key (chars x)]

end MetricWatch.Json
