import MetricWatch.Error

/-!
How often to poll, and how many failures make a series degraded. Ticks stand on a grid: a tick that
comes late moves no later tick, and ticks that were missed are left out. The clock sets no timer for more
than thirty years, so that ticks which the grid has further apart than that come earlier.
-/

namespace MetricWatch

/-- The milliseconds between two ticks, and the failures in a row that make a series degraded. -/
structure Cadence where
  interval : UInt64
  threshold : UInt32
  interval_ne_zero : interval ≠ 0
  threshold_ne_zero : threshold ≠ 0
  deriving DecidableEq

namespace Cadence

/-- The cadence with the given numbers. -/
def make (interval : UInt64) (threshold : UInt32) : Except Error Cadence :=
  if hi : interval = 0 then .error (.config .zeroTickInterval)
  else if ht : threshold = 0 then .error (.config .zeroFailureThreshold)
  else .ok { interval, threshold, interval_ne_zero := hi, threshold_ne_zero := ht }

/-- Milliseconds that a tick may be late without being taken for a missed one. -/
def grace : Nat := 5

/-- How many ticks are made up at `now` when the next was due at `due`. Within the grace time each
tick of the grid that is due is made; later there is one tick for all that were missed. -/
def ticksDue (c : Cadence) (due now : Nat) : Nat :=
  if now - due ≤ grace then (now - due) / c.interval.toNat + 1 else 1

/-- The longest time, in milliseconds, that the clock sets a timer for: thirty years of 365 days. The
interval may be any number of 64 bits, and so may ask for more. -/
def horizon : Nat := 30 * 365 * 24 * 60 * 60 * 1000

/-- The place on the grid of the tick after those, which is after `now`. -/
def nextOnGrid (c : Cadence) (due now : Nat) : Nat :=
  if now - due ≤ grace then due + ((now - due) / c.interval.toNat + 1) * c.interval.toNat
  else now + c.interval.toNat - (now - due) % c.interval.toNat

/-- When the tick after those is due: on the grid, or at the horizon where the grid goes beyond it;
the grid then begins anew there. -/
def next (c : Cadence) (due now : Nat) : Nat := min (c.nextOnGrid due now) (now + horizon)

/-- A decimal fraction of a thousand, without the zeros that end it. -/
def thousandths (n : Nat) : String :=
  if n = 0 then ""
  else
    let digits := ((toString (1000 + n)).toList.drop 1).reverse.dropWhile (· = '0')
    "." ++ String.ofList digits.reverse

/-- A length of time as it is shown: in seconds, or in milliseconds if it is below one second. -/
def durationText (milliseconds : Nat) : String :=
  if milliseconds < 1000 then toString milliseconds ++ "ms"
  else toString (milliseconds / 1000) ++ thousandths (milliseconds % 1000) ++ "s"

end Cadence

end MetricWatch
