/-!
Sets of characters that are given by ranges of code points, and how tables of such ranges are
written down: as hexadecimal numbers between blanks, the two ends of a range with a hyphen between
them.
-/

namespace MetricWatch.Text

/-- The value of a hexadecimal digit in capitals. -/
def hexValue (c : Char) : Nat :=
  if c.isDigit then c.toNat - '0'.toNat else c.toNat - 'A'.toNat + 10

/-- The number that hexadecimal digits stand for. -/
def hexNumber (cs : List Char) : Nat := cs.foldl (fun n c => 16 * n + hexValue c) 0

/-- The character whose code point hexadecimal digits stand for. -/
def hexChar (cs : List Char) : Char := Char.ofNat (hexNumber cs)

/-- The pieces of a text between blanks and line ends. -/
def words (s : String) : List (List Char) :=
  (s.toList.splitOnP fun c => c = ' ' || c = '\n').filter (!·.isEmpty)

/-- A range of code points, both ends included. -/
structure CodeRange where
  first : Nat
  last : Nat

/-- Reads a range. A single number is both its ends. -/
def CodeRange.ofChars (cs : List Char) : CodeRange :=
  let (first, after) := cs.span (· ≠ '-')
  { first := hexNumber first, last := hexNumber (if after.isEmpty then first else after.drop 1) }

/-- Whether a range holds a character. -/
def CodeRange.contains (r : CodeRange) (c : Char) : Bool :=
  r.first ≤ c.toNat && c.toNat ≤ r.last

/-- A set of characters, as ranges. -/
abbrev CodeRanges := List CodeRange

/-- Reads ranges off a text. -/
def CodeRanges.ofText (s : String) : CodeRanges := (words s).map CodeRange.ofChars

/-- Whether a set holds a character. -/
def CodeRanges.contains (rs : CodeRanges) (c : Char) : Bool := rs.any (·.contains c)

end MetricWatch.Text
