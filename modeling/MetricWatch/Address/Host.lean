import MetricWatch.Address.Domain
import MetricWatch.Address.Escape

/-!
Hosts: names, addresses of four bytes, which may also be written as fewer numbers and in other
bases, and addresses of eight pieces in brackets. The host of an unknown scheme is a text without
meaning, unless it stands in brackets.
-/

namespace MetricWatch.Address

/-- The host of an address. -/
inductive Host where
  | domain (name : List Char)
  | bytes (number : UInt32)
  | pieces (pieces : List UInt16)
  /-- The host of a scheme that is not known. -/
  | other (name : List Char)
  deriving DecidableEq

/-! ### Four bytes -/

/-- Reads digits in a base. -/
def digits? (base : Nat) (cs : List Char) : Option Nat :=
  cs.foldlM (fun n c => ((digitValue? c).filter (· < base)).map (base * n + ·)) 0

/-- The number that a part of a numeric host stands for. It is hexadecimal after `0x`, octal after
another zero, and else decimal. -/
def partNumber? : List Char → Option Nat
  | [] => none
  | '0' :: 'x' :: ds => digits? 16 ds
  | '0' :: d :: ds => digits? 8 (d :: ds)
  | ds => digits? 10 ds

/-- The parts of a host name between its points. A point at the end adds none. -/
def hostParts (cs : List Char) : List (List Char) :=
  let parts := cs.splitOn '.'
  if parts.length > 1 && parts.getLast? = some [] then parts.dropLast else parts

/-- Whether a host name whose last part is such is numeric. -/
def isNumericPart (cs : List Char) : Bool :=
  !cs.isEmpty && (cs.all Char.isDigit || (['0', 'x'].isPrefixOf cs && (partNumber? cs).isSome))

/-- The number of a numeric host. Its first parts are bytes, and its last one fills what is left. -/
def hostNumber? (parts : List (List Char)) : Option UInt32 :=
  (parts.mapM partNumber?).bind fun numbers =>
    let last := numbers.getLast?.getD 0
    let first := numbers.dropLast
    if 4 < numbers.length || first.any (255 < ·) || Nat.pow 256 (5 - numbers.length) ≤ last then
      none
    else
      let high := first.foldl (fun n b => 256 * n + b) 0
      some (high * Nat.pow 256 (4 - first.length) + last).toUInt32

/-- Four bytes as they are written. -/
def numberChars (n : UInt32) : List Char :=
  ['.'].intercalate ([3, 2, 1, 0].map fun i => Nat.toDigits 10 (n.toNat / Nat.pow 256 i % 256))

/-! ### Eight pieces -/

/-- A byte in decimal digits, without zeros in front. -/
def byteNumber? (cs : List Char) : Option Nat :=
  if cs.isEmpty || (1 < cs.length && cs.head? = some '0') then none
  else (digits? 10 cs).filter (· < 256)

/-- A group of digits between colons. In the last place four bytes may stand for two pieces. -/
def group? (isLast : Bool) (cs : List Char) : Option (List UInt16) :=
  if isLast && cs.contains '.' then
    match (cs.splitOn '.').mapM byteNumber? with
    | some [a, b, c, d] => some [(256 * a + b).toUInt16, (256 * c + d).toUInt16]
    | _ => none
  else if cs.isEmpty || 4 < cs.length then none
  else (digits? 16 cs).map fun n => [n.toUInt16]

/-- The pieces of some groups. -/
def groups? (isLast : Bool) : List (List Char) → Option (List UInt16)
  | [] => some []
  | [group] => group? isLast group
  | group :: rest => do return (← group? false group) ++ (← groups? isLast rest)

/-- The pieces of groups with single colons between them, of which there may be none. -/
def run? (isLast : Bool) (cs : List Char) : Option (List UInt16) :=
  if cs.isEmpty then some [] else groups? isLast (cs.splitOn ':')

/-- A text before and after its first two colons in a row. -/
def splitGap : List Char → List Char × Option (List Char)
  | ':' :: ':' :: rest => ([], some rest)
  | c :: rest => let (before, after) := splitGap rest; (c :: before, after)
  | [] => ([], none)

/-- The eight pieces of an address. Two colons stand for as many zeros as are missing. -/
def pieces? (cs : List Char) : Option (List UInt16) :=
  match splitGap cs with
  | (all, none) => (run? true all).filter (·.length = 8)
  | (before, some after) => do
    let before ← run? false before
    let after ← run? true after
    let missing := 8 - (before.length + after.length)
    if missing = 0 then none else some (before ++ List.replicate missing 0 ++ after)

/-- The length of the zeros that some pieces begin with. -/
def zeroRun (ps : List UInt16) : Nat := (ps.takeWhile (· = 0)).length

/-- Where the first of the longest runs of zeros begins, and its length. -/
def longestZeroRun : List UInt16 → Nat × Nat
  | [] => (0, 0)
  | p :: ps =>
    let (start, length) := longestZeroRun ps
    if zeroRun (p :: ps) ≥ length && zeroRun (p :: ps) > 0 then (0, zeroRun (p :: ps))
    else (start + 1, length)

/-- Pieces with single colons between them. -/
def runChars (ps : List UInt16) : List Char :=
  [':'].intercalate (ps.map fun p => Nat.toDigits 16 p.toNat)

/-- Eight pieces as they are written. Two colons stand for the first of the longest runs of at least
two zeros. -/
def piecesChars (ps : List UInt16) : List Char :=
  let (start, length) := longestZeroRun ps
  let within :=
    if length < 2 then runChars ps
    else runChars (ps.take start) ++ ':' :: ':' :: runChars (ps.drop (start + length))
  '[' :: (within ++ [']'])

/-! ### Hosts -/

/-- An address in brackets, the opening one having been read. -/
def bracketed? (cs : List Char) : Option Host :=
  if cs.getLast? = some ']' then (pieces? cs.dropLast).map .pieces else none

/-- The host that a text names where the scheme is a known one. -/
def Host.known? (cs : List Char) : Option Host :=
  match cs with
  | '[' :: rest => bracketed? rest
  | _ => do
    let name ← domainChars? (← unescape? cs)
    if name.isEmpty then none
    else if (hostParts name).getLast?.any isNumericPart then
      (hostNumber? (hostParts name)).map .bytes
    else some (.domain name)

/-- Characters that may not stand in the host of an unknown scheme. -/
def hostReserved : List Char :=
  ['\x00', '\t', '\n', '\r', ' ', '#', '/', ':', '<', '>', '?', '@', '[', '\\', ']', '^', '|']

/-- The host that a text names where the scheme is not known. -/
def Host.unknown? (cs : List Char) : Option Host :=
  match cs with
  | '[' :: rest => bracketed? rest
  | _ => if cs.any hostReserved.contains then none else some (.other (escape [] cs))

/-- A host as it is written. -/
def Host.chars : Host → List Char
  | .domain name => name
  | .bytes number => numberChars number
  | .pieces ps => piecesChars ps
  | .other name => name

end MetricWatch.Address
