import MetricWatch.Error
import MetricWatch.Metric.Definition
import MetricWatch.Metric.Sample

/-!
From reads to samples. Whatever goes wrong on the way to the bridge becomes a sample without a
value, so fetching never fails.
-/

namespace MetricWatch

/-- What a double that is no finite number is called. -/
def nonFiniteName (x : Float) : String :=
  if x = Decimal.infinity then "inf" else if x = -Decimal.infinity then "-inf" else "NaN"

/-- The sample for what a read of a definition gave. Only a finite number is a value. -/
def Definition.sample (d : Definition) (timestamp : UInt64) (read : Except Error Float) : Sample :=
  match read with
  | .ok x =>
    if x.isFinite then Sample.ok d.label timestamp x
    else Sample.failed d.label timestamp ("non-finite value " ++ nonFiniteName x)
  | .error e => Sample.failed d.label timestamp e.message

/-- What a read gives, and the milliseconds that it takes. -/
structure TimedRead where
  result : Except Error Float
  delay : Nat

/-- What fetching some definitions gives, each read beginning when it may, and the milliseconds
that all of it takes. -/
structure Fetched where
  samples : List Sample
  elapsed : Nat

/-- Fetches definitions all at once: the slowest read decides how long it takes. -/
def fetchAll (read : Definition → TimedRead) (timestamp : UInt64) (ds : List Definition) :
    Fetched where
  samples := ds.map fun d => d.sample timestamp (read d).result
  elapsed := (ds.map fun d => (read d).delay).foldl max 0

/-- Fetches definitions one after the other. -/
def fetchInTurn (read : Definition → TimedRead) (timestamp : UInt64) (ds : List Definition) :
    Fetched where
  samples := ds.map fun d => d.sample timestamp (read d).result
  elapsed := (ds.map fun d => (read d).delay).foldl (· + ·) 0

end MetricWatch
