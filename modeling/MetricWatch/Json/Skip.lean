import MetricWatch.Json.Reader

/-!
Passing over a value that nobody reads. It must be well formed, but it may nest as deep, hold as
large a number and break as many surrogate pairs as it likes.
-/

namespace MetricWatch.Json

/-- Passes over a value that nests less deep than the first argument. -/
def skipWithin : Nat → Reader Unit
  | 0, _ => .error .malformed
  | depth + 1, input =>
    match skipSpace input with
    | [] => .error .truncated
    | s :: rest =>
      let done (rest : Except Fault (List Symbol)) : Except Fault (Unit × List Symbol) :=
        rest.map fun rest => ((), rest)
      if s = some 'n' then done (word ['u', 'l', 'l'] rest)
      else if s = some 't' then done (word ['r', 'u', 'e'] rest)
      else if s = some 'f' then done (word ['a', 'l', 's', 'e'] rest)
      else if s = some '"' then passTextBody rest
      else if beginsNumber s then (numeral .malformed (s :: rest)).map fun (_, rest) => ((), rest)
      else if s = some '[' then
        (items (skipWithin depth) (rest.length + 1) true rest).map fun (_, rest) => ((), rest)
      else if s = some '\x7b' then
        members passTextBody
          (fun _ _ input => do
            let rest ← colon input
            skipWithin depth rest)
          (rest.length + 1) true () rest
      else .error .malformed

/-- Passes over a value. No text nests deeper than it is long. -/
def skip : Reader Unit := fun input => skipWithin (input.length + 1) input

end MetricWatch.Json
