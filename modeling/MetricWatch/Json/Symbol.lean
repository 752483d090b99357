/-!
What a JSON text is made of. A text that arrives as bytes may hold bytes that belong to no
character; they are kept apart, since they do no harm inside a string that nobody reads.
-/

namespace MetricWatch.Json

/-- A character of a text, or `none` for a byte that belongs to none. -/
abbrev Symbol := Option Char

/-- The symbols of a text. -/
def symbols (s : String) : List Symbol := s.toList.map some

/-- The bits that a continuation byte contributes. -/
def continuation? (b : UInt8) : Option Nat :=
  if 0x80 ≤ b.toNat && b.toNat < 0xC0 then some (b.toNat - 0x80) else none

/-- The character of a code point, if it has one. -/
def scalar? (n : Nat) : Option Char :=
  if h : n.isValidChar then some (Char.ofNatAux n h) else none

/-- The character that a leading byte begins with its own bits `high` and `count` more bytes, and
how many those are. Only the shortest form of a character counts. -/
def multibyte (count least high : Nat) (rest : List UInt8) : Symbol × Nat :=
  match (rest.take count).mapM continuation? with
  | none => (none, 0)
  | some bits =>
    let code := bits.foldl (fun n b => 64 * n + b) high
    if bits.length = count ∧ least ≤ code then
      match scalar? code with
      | some c => (some c, count)
      | none => (none, 0)
    else (none, 0)

/-- The symbol that begins with a byte, and how many of the following bytes belong to it. -/
def leading (b : UInt8) (rest : List UInt8) : Symbol × Nat :=
  let n := b.toNat
  if n < 0x80 then (scalar? n, 0)
  else if 0xC0 ≤ n && n < 0xE0 then multibyte 1 0x80 (n - 0xC0) rest
  else if 0xE0 ≤ n && n < 0xF0 then multibyte 2 0x800 (n - 0xE0) rest
  else if 0xF0 ≤ n && n < 0xF8 then multibyte 3 0x10000 (n - 0xF0) rest
  else (none, 0)

/-- The symbols of a text given as bytes, after the next `taken` bytes. -/
def decodeFrom : Nat → List UInt8 → List Symbol
  | _, [] => []
  | taken + 1, _ :: rest => decodeFrom taken rest
  | 0, b :: rest => (leading b rest).1 :: decodeFrom (leading b rest).2 rest

/-- The symbols of a text given as bytes. -/
def decode (bytes : List UInt8) : List Symbol := decodeFrom 0 bytes

/-- The text that symbols make up, if every byte belongs to a character. -/
def text? (symbols : List Symbol) : Option String :=
  (symbols.mapM id).map String.ofList

/-- How many bytes a symbol takes up. -/
def Symbol.byteSize (s : Symbol) : Nat := (s.map Char.utf8Size).getD 1

end MetricWatch.Json
