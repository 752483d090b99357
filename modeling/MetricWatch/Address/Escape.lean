/-!
Escapes in addresses: a byte that may not stand in some part of an address is written by its two
hexadecimal digits behind a percent sign.
-/

namespace MetricWatch.Address

/-- The bytes of a character. -/
def charBytes (c : Char) : List UInt8 := (String.singleton c).toUTF8.toList

/-- The escape of a byte. -/
def escapeByte (b : UInt8) : List Char :=
  let digits := (Nat.toDigits 16 b.toNat).map Char.toUpper
  '%' :: (List.replicate (2 - digits.length) '0' ++ digits)

/-- Escapes a character if it is reserved, a control character or beyond ASCII. -/
def escapeChar (reserved : List Char) (c : Char) : List Char :=
  if c.toNat < 0x20 || 0x7E < c.toNat || reserved.contains c then
    (charBytes c).flatMap escapeByte
  else [c]

/-- A text with the characters escaped that may not stand in it. -/
def escape (reserved : List Char) (cs : List Char) : List Char := cs.flatMap (escapeChar reserved)

/-- Characters that may not stand in a fragment. -/
def fragmentReserved : List Char := [' ', '"', '<', '>', '\x60']

/-- Characters that may not stand in a path. -/
def pathReserved : List Char := fragmentReserved ++ ['#', '?', '\x7b', '\x7d']

/-- Characters that may not stand in a user name or password. -/
def credentialReserved : List Char :=
  pathReserved ++ ['/', ':', ';', '=', '@', '[', '\\', ']', '^', '|']

/-- Characters that may not stand in a query. -/
def queryReserved : List Char := [' ', '"', '#', '<', '>']

/-- Characters that may not stand in a query where the scheme is a known one. -/
def specialQueryReserved : List Char := '\'' :: queryReserved

/-- The value of a hexadecimal digit. -/
def digitValue? (c : Char) : Option Nat :=
  if c.isDigit then some (c.toNat - '0'.toNat)
  else if 'a' ≤ c && c ≤ 'f' then some (c.toNat - 'a'.toNat + 10)
  else if 'A' ≤ c && c ≤ 'F' then some (c.toNat - 'A'.toNat + 10)
  else none

/-- The byte that two hexadecimal digits stand for. -/
def escapedByte? (high low : Char) : Option UInt8 :=
  match digitValue? high, digitValue? low with
  | some h, some l => some (16 * h + l).toUInt8
  | _, _ => none

/-- The bytes of a text in which escapes stand for bytes. A percent sign that begins no escape
stands for itself. -/
def unescapedBytes : List Char → List UInt8
  | [] => []
  | '%' :: high :: low :: rest =>
    match escapedByte? high low with
    | some b => b :: unescapedBytes rest
    | none => charBytes '%' ++ unescapedBytes (high :: low :: rest)
  | c :: rest => charBytes c ++ unescapedBytes rest

/-- The text that is meant by one with escapes, if its bytes are one. -/
def unescape? (cs : List Char) : Option (List Char) :=
  if cs.contains '%' then
    (String.fromUTF8? (ByteArray.mk (unescapedBytes cs).toArray)).map String.toList
  else some cs

end MetricWatch.Address
