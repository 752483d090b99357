import MetricWatch.Json.Fault
import MetricWatch.Json.Symbol

/-!
Reading the leaves of a JSON text: white space, words, strings and numbers, and lists and members
in terms of a reader for what they hold.

A string that is kept must be a text, so its escapes may not leave half a surrogate pair and its
bytes must be characters. A string that nobody reads need only be well formed.
-/

namespace MetricWatch.Json

/-- What reads a value off the front of a text. -/
abbrev Reader (α : Type) := List Symbol → Except Fault (α × List Symbol)

/-- The white space of JSON. -/
def isSpace (s : Symbol) : Bool :=
  s = some ' ' || s = some '\t' || s = some '\n' || s = some '\r'

/-- The text after the white space at its front. -/
def skipSpace (input : List Symbol) : List Symbol := input.dropWhile isSpace

/-- Reads the given characters. -/
def word : List Char → List Symbol → Except Fault (List Symbol)
  | [], input => .ok input
  | _ :: _, [] => .error .truncated
  | c :: cs, s :: rest => if s = some c then word cs rest else .error .malformed

/-! ## Strings -/

/-- The value of a hexadecimal digit. -/
def hexDigit? (s : Symbol) : Option Nat :=
  s.bind fun c =>
    if '0' ≤ c && c ≤ '9' then some (c.toNat - '0'.toNat)
    else if 'a' ≤ c && c ≤ 'f' then some (c.toNat - 'a'.toNat + 10)
    else if 'A' ≤ c && c ≤ 'F' then some (c.toNat - 'A'.toNat + 10)
    else none

/-- The four hexadecimal digits of an escape. With fewer than four bytes left the text is cut. -/
def hexUnit (input : List Symbol) : Except Fault Nat :=
  match input.take 4 with
  | [a, b, c, d] =>
    match hexDigit? a, hexDigit? b, hexDigit? c, hexDigit? d with
    | some a, some b, some c, some d => .ok (((16 * a + b) * 16 + c) * 16 + d)
    | _, _, _, _ => .error .malformed
  | short =>
    .error (if (short.map Symbol.byteSize).foldl (· + ·) 0 < 4 then .truncated else .malformed)

/-- The first half of a surrogate pair. -/
def isHighSurrogate (unit : Nat) : Bool := 0xD800 ≤ unit && unit < 0xDC00

/-- The second half of a surrogate pair. -/
def isLowSurrogate (unit : Nat) : Bool := 0xDC00 ≤ unit && unit < 0xE000

/-- The character that a letter stands for after a backslash. -/
def escaped? (s : Symbol) : Option Char :=
  match s with
  | some '"' => some '"'
  | some '\\' => some '\\'
  | some '/' => some '/'
  | some 'b' => some '\x08'
  | some 'f' => some '\x0c'
  | some 'n' => some '\n'
  | some 'r' => some '\r'
  | some 't' => some '\t'
  | _ => none

/-- The second half of an escaped surrogate pair, from the backslash on. -/
def lowSurrogate (input : List Symbol) : Except Fault Nat := do
  let rest ← word ['\\', 'u'] input
  let unit ← hexUnit rest
  if isLowSurrogate unit then .ok unit else .error .malformed

/-- The character of an escape in a string that is kept, and how many symbols it takes up after the
backslash. -/
def escape : List Symbol → Except Fault (Char × Nat)
  | [] => .error .truncated
  | s :: rest =>
    if s = some 'u' then do
      let unit ← hexUnit rest
      if isLowSurrogate unit then .error .malformed
      else if isHighSurrogate unit then
        let low ← lowSurrogate (rest.drop 4)
        .ok (Char.ofNat (0x10000 + (unit - 0xD800) * 0x400 + (low - 0xDC00)), 11)
      else .ok (Char.ofNat unit, 5)
    else
      match escaped? s with
      | some c => .ok (c, 1)
      | none => .error .malformed

/-- How many symbols an escape takes up after the backslash in a string that is passed over. -/
def passEscape : List Symbol → Except Fault Nat
  | [] => .error .truncated
  | s :: rest =>
    if s = some 'u' then (hexUnit rest).map fun _ => 5
    else if (escaped? s).isSome then .ok 1
    else .error .malformed

/-- A character that a string may hold as it stands. -/
def isPlain (c : Char) : Bool := 0x20 ≤ c.toNat

/-- The characters of a string up to its closing quote, after the next `taken` symbols. -/
def textFrom : Nat → Reader (List Char)
  | _, [] => .error .truncated
  | taken + 1, _ :: rest => textFrom taken rest
  | 0, s :: rest =>
    if s = some '"' then .ok ([], rest)
    else if s = some '\\' then
      match escape rest with
      | .error fault => .error fault
      | .ok (c, taken) => (textFrom taken rest).map fun (cs, rest) => (c :: cs, rest)
    else
      match s with
      | none => .error .malformed
      | some c =>
        if isPlain c then (textFrom 0 rest).map fun (cs, rest) => (c :: cs, rest)
        else .error .malformed

/-- Passes over a string up to its closing quote, after the next `taken` symbols. -/
def passTextFrom : Nat → List Symbol → Except Fault (List Symbol)
  | _, [] => .error .truncated
  | taken + 1, _ :: rest => passTextFrom taken rest
  | 0, s :: rest =>
    if s = some '"' then .ok rest
    else if s = some '\\' then
      match passEscape rest with
      | .error fault => .error fault
      | .ok taken => passTextFrom taken rest
    else if s.all isPlain then passTextFrom 0 rest
    else .error .malformed

/-- Reads a string whose opening quote has been read. -/
def textBody : Reader String := fun input =>
  (textFrom 0 input).map fun (cs, rest) => (String.ofList cs, rest)

/-- Passes over a string whose opening quote has been read. -/
def passTextBody : Reader Unit := fun input =>
  (passTextFrom 0 input).map fun rest => ((), rest)

/-! ## Numbers -/

/-- The value of a decimal digit. -/
def digit? (s : Symbol) : Option Nat := s.bind Decimal.digit?

/-- The digits at the front of a text. -/
def spanDigits : List Symbol → List Nat × List Symbol
  | [] => ([], [])
  | s :: rest =>
    match digit? s with
    | some d => (d :: (spanDigits rest).1, (spanDigits rest).2)
    | none => ([], s :: rest)

/-- Reads one digit or more. A text that ends instead has the fault `cut`. -/
def digits (cut : Fault) : Reader (List Nat) := fun input =>
  match spanDigits input with
  | ([], []) => .error cut
  | ([], _ :: _) => .error .malformed
  | (ds, rest) => .ok (ds, rest)

/-- Reads the digits before the point: a zero stands alone. -/
def wholeDigits (cut : Fault) : Reader (List Nat) := fun input => do
  let (ds, rest) ← digits cut input
  if ds.head? = some 0 && 1 < ds.length then .error .malformed else .ok (ds, rest)

/-- Reads a point and the digits after it, if a point comes next. -/
def fractionDigits (cut : Fault) : Reader (List Nat) := fun input =>
  match input with
  | some '.' :: rest => digits cut rest
  | _ => .ok ([], input)

/-- Reads an exponent, if its mark comes next. -/
def exponent (cut : Fault) : Reader (Option Decimal.Exponent) := fun input =>
  match input with
  | s :: rest =>
    if s = some 'e' || s = some 'E' then do
      let (negative, rest) :=
        match rest with
        | some '-' :: rest => (true, rest)
        | some '+' :: rest => (false, rest)
        | _ => (false, rest)
      let (ds, rest) ← digits cut rest
      .ok (some ⟨negative, ds⟩, rest)
    else .ok (none, input)
  | [] => .ok (none, input)

/-- Reads a number's digits. A text that ends inside the number has the fault `cut`. -/
def numeral (cut : Fault) : Reader Decimal.Numeral := fun input => do
  let (negative, rest) :=
    match input with
    | some '-' :: rest => (true, rest)
    | _ => (false, input)
  let (whole, rest) ← wholeDigits cut rest
  let (fraction, rest) ← fractionDigits cut rest
  let (exponent, rest) ← exponent cut rest
  .ok (⟨negative, whole, fraction, exponent⟩, rest)

/-- Whether a number begins with a symbol. -/
def beginsNumber (s : Symbol) : Bool := s = some '-' || (digit? s).isSome

/-- Reads a number. -/
def number : Reader Number := fun input => do
  let (n, rest) ← numeral .truncated input
  match Number.ofNumeral? n with
  | some n => .ok (n, rest)
  | none => .error .malformed

/-! ## Lists and members -/

/-- Reads a colon. -/
def colon (input : List Symbol) : Except Fault (List Symbol) :=
  match skipSpace input with
  | [] => .error .truncated
  | s :: rest => if s = some ':' then .ok rest else .error .malformed

/-- Reads the items of a list whose bracket has been read, of which there are fewer than the first
argument. Between two items stands a comma. -/
def items {α : Type} (item : Reader α) : Nat → Bool → Reader (List α)
  | 0, _, _ => .error .malformed
  | bound + 1, first, input =>
    let more (input : List Symbol) : Except Fault (List α × List Symbol) :=
      match item input with
      | .error fault => .error fault
      | .ok (x, rest) => (items item bound false rest).map fun (xs, rest) => (x :: xs, rest)
    match skipSpace input with
    | [] => .error .truncated
    | s :: rest =>
      if s = some ']' then .ok ([], rest)
      else if first then more (s :: rest)
      else if s = some ',' then
        match skipSpace rest with
        | [] => .error .truncated
        | s :: rest => if s = some ']' then .error .malformed else more (s :: rest)
      else .error .malformed

/-- Reads the members of an object whose brace has been read, of which there are fewer than the
first argument. Each key begins with a quote; `member` reads what follows the key. -/
def members {κ σ : Type} (key : Reader κ) (member : κ → σ → Reader σ) :
    Nat → Bool → σ → Reader σ
  | 0, _, _, _ => .error .malformed
  | bound + 1, first, state, input =>
    let more (input : List Symbol) : Except Fault (σ × List Symbol) :=
      match input with
      | [] => .error .truncated
      | s :: rest =>
        if s = some '"' then
          match key rest with
          | .error fault => .error fault
          | .ok (k, rest) =>
            match member k state rest with
            | .error fault => .error fault
            | .ok (state, rest) => members key member bound false state rest
        else .error .malformed
    match skipSpace input with
    | [] => .error .truncated
    | s :: rest =>
      if s = some '\x7d' then .ok (state, rest)
      else if first then more (s :: rest)
      else if s = some ',' then more (skipSpace rest)
      else .error .malformed

/-! ## Whole texts -/

/-- Reads a text that holds one value and nothing after it. -/
def whole {α : Type} (reader : Reader α) (input : List Symbol) : Except Fault α := do
  let (x, rest) ← reader input
  if (skipSpace rest).isEmpty then .ok x else .error .malformed

end MetricWatch.Json
