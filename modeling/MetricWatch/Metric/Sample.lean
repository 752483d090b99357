/-!
Samples: what one read of a series gave at one time.
-/

namespace MetricWatch

/-- One reading of a series. A reading without a value failed, and its error then says why; it
stands for no update and never for zero. -/
structure Sample where
  label : String
  /-- Milliseconds since the epoch. -/
  timestamp : UInt64
  value : Option Float
  error : Option String := none
  deriving DecidableEq

namespace Sample

/-- A reading that gave a value. -/
def ok (label : String) (timestamp : UInt64) (value : Float) : Sample :=
  { label, timestamp, value := some value }

/-- A reading that failed. -/
def failed (label : String) (timestamp : UInt64) (reason : String) : Sample :=
  { label, timestamp, value := none, error := some reason }

/-- Whether a reading gave no value. -/
def isFailure (s : Sample) : Bool := s.value.isNone

end Sample

/-- Notice that a series has failed so many fetches in a row. Polling goes on all the same. -/
structure Warning where
  label : String
  failures : UInt32
  lastError : Option String
  /-- Milliseconds since the epoch. -/
  timestamp : UInt64
  deriving DecidableEq

end MetricWatch
