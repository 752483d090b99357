import MetricWatch.Json.Reader

/-!
Reading values of a wanted type. A value of another type is named in the fault, as far as it is
well formed.
-/

namespace MetricWatch.Json

/-- The fault of a value that is not of the wanted type. The text begins with the value. -/
def mismatch (expected : Expected) (input : List Symbol) : Fault :=
  let named (found : Except Fault Found) : Fault :=
    match found with
    | .error fault => fault
    | .ok found => .unfit (.invalidType found expected)
  match input with
  | [] => .truncated
  | s :: rest =>
    if s = some 'n' then named ((word ['u', 'l', 'l'] rest).map fun _ => .null)
    else if s = some 't' then named ((word ['r', 'u', 'e'] rest).map fun _ => .boolean true)
    else if s = some 'f' then
      named ((word ['a', 'l', 's', 'e'] rest).map fun _ => .boolean false)
    else if s = some '"' then named ((textBody rest).map fun (s, _) => .text s)
    else if beginsNumber s then named ((number (s :: rest)).map fun (n, _) => .number n)
    else if s = some '[' then named (.ok .sequence)
    else if s = some '\x7b' then named (.ok .map)
    else .malformed

/-- Reads a text. -/
def text : Reader String := fun input =>
  match skipSpace input with
  | [] => .error .truncated
  | s :: rest => if s = some '"' then textBody rest else .error (mismatch .text (s :: rest))

/-- Reads a number and takes it in as a value of the wanted type. -/
def numberAs {α : Type} (expected : Expected) (accept : Number → Except Problem α) :
    Reader α := fun input =>
  match skipSpace input with
  | [] => .error .truncated
  | s :: rest =>
    if beginsNumber s then do
      let (n, rest) ← number (s :: rest)
      match accept n with
      | .ok x => .ok (x, rest)
      | .error problem => .error (.unfit problem)
    else .error (mismatch expected (s :: rest))

/-- Takes in a whole number of at most the given bits. -/
def acceptWord (bits : Nat) (n : Number) : Except Problem Nat :=
  match n with
  | .natural w =>
    if w.toNat < Nat.pow 2 bits then .ok w.toNat
    else .error (.invalidValue (.number n) (.word bits))
  | .negative _ => .error (.invalidValue (.number n) (.word bits))
  | .double _ => .error (.invalidType (.number n) (.word bits))

/-- Reads a whole number of at most the given bits. -/
def wordOf (bits : Nat) : Reader Nat := numberAs (.word bits) (acceptWord bits)

/-- Reads a 16-bit word. -/
def word16 : Reader UInt16 := fun input =>
  (wordOf 16 input).map fun (n, rest) => (UInt16.ofNat n, rest)

/-- Reads a 32-bit word. -/
def word32 : Reader UInt32 := fun input =>
  (wordOf 32 input).map fun (n, rest) => (UInt32.ofNat n, rest)

/-- Reads a 64-bit word. -/
def word64 : Reader UInt64 := fun input =>
  (wordOf 64 input).map fun (n, rest) => (UInt64.ofNat n, rest)

/-- Reads a double. -/
def double : Reader Float := numberAs .double fun n => .ok n.toFloat

/-- Reads a value that may be absent, which `null` says. -/
def optional {α : Type} (reader : Reader α) : Reader (Option α) := fun input =>
  match skipSpace input with
  | some 'n' :: rest => (word ['u', 'l', 'l'] rest).map fun rest => (none, rest)
  | input => (reader input).map fun (x, rest) => (some x, rest)

/-- Reads a list. -/
def list {α : Type} (item : Reader α) : Reader (List α) := fun input =>
  match skipSpace input with
  | [] => .error .truncated
  | s :: rest =>
    if s = some '[' then items item (rest.length + 1) true rest
    else .error (mismatch .sequence (s :: rest))

/-- Reads the word that stands for no information. -/
def nothing : Reader Unit := fun input =>
  match skipSpace input with
  | [] => .error .truncated
  | s :: rest =>
    if s = some 'n' then (word ['u', 'l', 'l'] rest).map fun rest => ((), rest)
    else .error (mismatch .nothing (s :: rest))

/-- Reads the name of one of some known values. Nothing but a text can stand there. -/
def variantName {α : Type} (known : List (String × α)) : Reader α := fun input =>
  match skipSpace input with
  | [] => .error .truncated
  | s :: rest =>
    if s = some '"' then do
      let (name, rest) ← textBody rest
      match known.lookup name with
      | some x => .ok (x, rest)
      | none => .error (.unfit (.unknownVariant name (known.map (·.1))))
    else .error .malformed

/-- Reads one of some known values: its name, or an object with that name alone and `null`. -/
def variant {α : Type} (known : List (String × α)) : Reader α := fun input =>
  match skipSpace input with
  | [] => .error .truncated
  | s :: rest =>
    if s = some '\x7b' then do
      let (x, rest) ← variantName known rest
      let rest ← colon rest
      let (_, rest) ← nothing rest
      match skipSpace rest with
      | [] => .error .truncated
      | s :: rest => if s = some '\x7d' then .ok (x, rest) else .error .malformed
    else variantName known (s :: rest)

end MetricWatch.Json
