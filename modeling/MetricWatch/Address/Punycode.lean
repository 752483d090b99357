/-!
Punycode: a text as ASCII letters, digits and hyphens. The ASCII characters come first; behind the
last hyphen stands, for each other character in the order of code points, how far it is from the
one before, counted over code points and places at once. Such a number is written least digit
first. The worth of each digit depends on the numbers before, so that equal distances become short.
-/

namespace MetricWatch.Address.Punycode

/-- The number of digits. -/
def radix : Nat := 36

/-- The first code point that is not ASCII. -/
def firstCode : Nat := 0x80

/-- Where the thresholds of the first number begin to rise. -/
def firstBias : Nat := 72

/-- What a number may not reach while it is read. -/
def limit : Nat := UInt32.size

/-- A digit: the letters, and behind them the ten digits. -/
def digitChar (d : Nat) : Char :=
  if d < 26 then Char.ofNat ('a'.toNat + d) else Char.ofNat ('0'.toNat + (d - 26))

/-- The value of a digit, whose letters may be of either case. -/
def digitValue? (c : Char) : Option Nat :=
  if 'a' ≤ c && c ≤ 'z' then some (c.toNat - 'a'.toNat)
  else if 'A' ≤ c && c ≤ 'Z' then some (c.toNat - 'A'.toNat)
  else if c.isDigit then some (c.toNat - '0'.toNat + 26)
  else none

/-- The least digit that does not end a number at a position, which counts in steps of the radix. -/
def threshold (position bias : Nat) : Nat := min 26 (max 1 (position - bias))

theorem threshold_pos (position bias : Nat) : 1 ≤ threshold position bias := by
  unfold threshold
  omega

/-- The bias that suits numbers about as large as `delta`. -/
def biasFor (delta steps : Nat) : Nat :=
  if 455 < delta then biasFor (delta / 35) (steps + radix)
  else steps + radix * delta / (delta + 38)
termination_by delta
decreasing_by exact Nat.div_lt_self (by omega) (by omega)

/-- The bias behind a number, with as many characters as there are by then. The first number is
taken for much larger than those that follow. -/
def adapt (delta count : Nat) (isFirst : Bool) : Nat :=
  let scaled := if isFirst then delta / 700 else delta / 2
  biasFor (scaled + scaled / count) 0

/-! ### Writing -/

/-- A number in digits. -/
def numberChars (bias position n : Nat) : List Char :=
  let t := threshold position bias
  if n < t then [digitChar n]
  else digitChar (t + (n - t) % (radix - t)) ::
    numberChars bias (position + radix) ((n - t) / (radix - t))
termination_by n
decreasing_by
  have := threshold_pos position bias
  exact Nat.lt_of_le_of_lt (Nat.div_le_self _ _) (by omega)

/-- What has been written, and where the writing is. -/
structure Writer where
  /-- How many ASCII characters the text has. -/
  basic : Nat
  /-- How many characters have been written. -/
  count : Nat
  /-- The places passed over since the last character. -/
  delta : Nat := 0
  bias : Nat := firstBias
  /-- The digits, last first. -/
  done : List Char := []

/-- Passes over a character, and writes it if it is the one whose turn it is. -/
def Writer.visit (code : Nat) (w : Writer) (c : Char) : Writer :=
  if c.toNat < code then { w with delta := w.delta + 1 }
  else if c.toNat = code then
    { w with
      count := w.count + 1
      delta := 0
      bias := adapt w.delta (w.count + 1) (w.count = w.basic)
      done := (numberChars w.bias radix w.delta).reverse ++ w.done }
  else w

/-- Writes the characters with some code points, which ascend; `next` is the first code point that
has not been passed over. -/
def Writer.run (cs : List Char) (next : Nat) (w : Writer) : List Nat → Writer
  | [] => w
  | code :: codes =>
    let w := { w with delta := w.delta + (code - next) * (w.count + 1) }
    let w := cs.foldl (visit code) w
    run cs (code + 1) { w with delta := w.delta + 1 } codes

/-- The code points beyond ASCII of a text, each once and ascending. -/
def laterCodes (cs : List Char) : List Nat :=
  (((cs.map Char.toNat).filter (firstCode ≤ ·)).mergeSort (· ≤ ·)).eraseDups

/-- A text in Punycode. -/
def encode (cs : List Char) : List Char :=
  let basic := cs.filter (·.toNat < firstCode)
  let start : Writer := { basic := basic.length, count := basic.length }
  basic ++ (if basic.isEmpty then [] else ['-']) ++
    (start.run cs firstCode (laterCodes cs)).done.reverse

/-! ### Reading -/

/-- Reads a number and adds it to `total`. A digit is worth `weight`. -/
def addNumber? (bias position weight total : Nat) : List Char → Option (Nat × List Char)
  | [] => none
  | c :: rest =>
    (digitValue? c).bind fun d =>
      let total := total + d * weight
      let t := threshold position bias
      if limit ≤ total then none
      else if d < t then some (total, rest)
      else if limit ≤ weight * (radix - t) then none
      else addNumber? bias (position + radix) (weight * (radix - t)) total rest

theorem length_lt_of_addNumber? {bias position weight total n : Nat} {cs rest : List Char}
    (h : addNumber? bias position weight total cs = some (n, rest)) : rest.length < cs.length := by
  induction cs generalizing position weight total with
  | nil => simp [addNumber?] at h
  | cons c cs ih =>
    rw [addNumber?] at h
    obtain ⟨d, -, h⟩ := Option.bind_eq_some_iff.1 h
    dsimp only at h
    split at h
    · simp at h
    · split at h
      · simp only [Option.some.injEq, Prod.mk.injEq] at h
        simp [h.2]
      · split at h
        · simp at h
        · have := ih h
          simp only [List.length_cons]
          omega

/-- Reads characters and puts them into a text. `place` and `code` say where the next one goes at
the earliest; it goes further by the number that is read. -/
def insertAll? (cs : List Char) (bias place code : Nat) (text : List Char) : Option (List Char) :=
  if cs.isEmpty then some text
  else
    match _h : addNumber? bias radix 1 place cs with
    | none => none
    | some (total, rest) =>
      let count := text.length + 1
      let here := total % count
      let code := code + total / count
      if code.isValidChar then
        insertAll? rest (adapt (total - place) count (place = 0)) (here + 1) code
          (text.take here ++ Char.ofNat code :: text.drop here)
      else none
termination_by cs.length
decreasing_by exact length_lt_of_addNumber? _h

/-- The text that Punycode stands for. -/
def decode? (cs : List Char) : Option (List Char) :=
  let digits := (cs.reverse.takeWhile (· ≠ '-')).reverse
  let before := (cs.take (cs.length - digits.length)).dropLast
  if before.isEmpty then insertAll? cs firstBias 0 firstCode []
  else if before.all (·.toNat < firstCode) then insertAll? digits firstBias 0 firstCode before
  else none

end MetricWatch.Address.Punycode
