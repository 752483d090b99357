import MetricWatch.Address.Mapping
import MetricWatch.Address.Punycode
import MetricWatch.Text.Composition
import MetricWatch.Text.Direction
import MetricWatch.Text.Joining
import MetricWatch.Text.Mark

/-!
Host names of any script, and the ASCII form in which each is written: its characters are mapped,
the text is composed, and every label that is not ASCII is written in Punycode.
-/

namespace MetricWatch.Address

/-- Characters that may not stand in a host name, apart from blanks and control characters. -/
def domainReserved : List Char :=
  ['%', '#', '/', ':', '<', '>', '?', '@', '[', '\\', ']', '^', '|', '\x7f']

/-- Whether a character may not stand in a host name. -/
def isRefusedInDomain (c : Char) : Bool := c.toNat ≤ 0x20 || domainReserved.contains c

/-- Whether a character is ASCII. -/
def isAscii (c : Char) : Bool := c.toNat < 0x80

/-- What a label in Punycode begins with. -/
def punycodeMark : List Char := ['x', 'n', '-', '-']

/-- The longest label in Punycode that is read. -/
def maxCodeLength : Nat := 2000

/-- The longest label that is written in Punycode. -/
def maxLabelLength : Nat := 1000

/-- Whether a text is one that is written in Punycode: it is not ASCII, and mapping and composing
leave it as it is. -/
def needsPunycode (label : List Char) : Bool :=
  !label.all isAscii && label.all (fun c => mapping? c = some [c]) && Text.compose label = label

/-- The text that a label stands for. -/
def labelText? (label : List Char) : Option (List Char) :=
  if punycodeMark.isPrefixOf label then
    let code := label.drop punycodeMark.length
    if code.length ≤ maxCodeLength && code.all isAscii then
      (Punycode.decode? code).filter needsPunycode
    else none
  else some label

/-- Whether a label is well formed: it begins with no combining mark, joiners stand only where they
have an effect, and if it is not ASCII it is not too long. -/
def isWellFormed (label : List Char) : Bool :=
  !label.head?.any Text.isMark && Text.joinersFit [] label &&
    (label.all isAscii || label.length ≤ maxLabelLength)

/-- A label as it is written. -/
def labelChars (label : List Char) : List Char :=
  if label.all isAscii then label else punycodeMark ++ Punycode.encode label

/-- A host name as it is written. If any of its labels reads from right to left, each has to keep to
one direction. -/
def domainChars? (cs : List Char) : Option (List Char) := do
  let mapped := Text.compose (← cs.mapM mapping?).flatten
  if mapped.any isRefusedInDomain then none
  let labels ← (mapped.splitOn '.').mapM labelText?
  if !labels.all isWellFormed then none
  if labels.any (·.any Text.isRightToLeft) && !labels.all Text.keepsDirection then none
  some (['.'].intercalate (labels.map labelChars))

end MetricWatch.Address
