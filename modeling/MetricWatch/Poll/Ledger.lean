import MetricWatch.Registry.Event

/-!
The ledger of polling: for each label how its fetches went and whether one is outstanding. A label
that is registered anew gets a new generation, so that a fetch of an earlier registration is told
from one of the present.
-/

namespace MetricWatch

/-- What the ledger holds on one registration of a label. -/
structure Series where
  /-- Identifies the registration. -/
  generation : Nat
  /-- The timestamp of the last sample with a value. -/
  lastSuccess : Option UInt64 := none
  /-- How many samples in a row had no value. The count stays at its greatest value. -/
  failures : UInt32 := 0
  /-- On how many ticks no fetch was begun because one was outstanding. -/
  skipped : Nat := 0
  degraded : Bool := false
  inFlight : Bool := false
  deriving DecidableEq

/-- What recording a sample changes in how a series stands. -/
inductive Change where
  | none
  /-- The failures in a row have reached the threshold. -/
  | degraded (failures : UInt32)
  /-- A degraded series gave a value. -/
  | recovered
  deriving DecidableEq

/-- What subscribers are told of a change, after the sample that made it. -/
def Change.event? (s : Sample) : Change → Option Event
  | none => Option.none
  | degraded failures => some (.degraded {
      label := s.label, failures, lastError := s.error, timestamp := s.timestamp })
  | recovered => some (.recovered s.label)

namespace Series

/-- One more than a count, unless the count is at its greatest value. -/
def increased (n : UInt32) : UInt32 := if n = 0xFFFFFFFF then n else n + 1

/-- The series after a sample with a value. -/
def succeed (s : Series) (timestamp : UInt64) : Series :=
  { s with failures := 0, lastSuccess := some timestamp, degraded := false }

/-- What a sample with a value changes. -/
def changeOnSuccess (s : Series) : Change := if s.degraded then .recovered else .none

/-- Whether one more failure makes the series degraded. -/
def failureDegrades (s : Series) (threshold : UInt32) : Bool :=
  !s.degraded && threshold ≤ increased s.failures

/-- The series after a sample without a value. -/
def fail (s : Series) (threshold : UInt32) : Series :=
  { s with
    failures := increased s.failures
    degraded := s.degraded || s.failureDegrades threshold }

/-- What a sample without a value changes. -/
def changeOnFailure (s : Series) (threshold : UInt32) : Change :=
  if s.failureDegrades threshold then .degraded (increased s.failures) else .none

end Series

/-- What is known of all registered labels. -/
structure Ledger where
  ticks : Nat := 0
  series : LabelMap Series := .empty
  /-- How many registrations there have been. -/
  generations : Nat := 0
  deriving DecidableEq

namespace Ledger

/-- What is known of a label. -/
def series? (l : Ledger) (label : String) : Option Series := l.series.get? label

/-- Changes what is known of a label. An unknown label is left unknown. -/
def alter (l : Ledger) (label : String) (f : Series → Series) : Ledger :=
  match l.series? label with
  | some s => { l with series := l.series.insert label (f s) }
  | none => l

/-- Registers a label under the next generation and forgets what was known of it. -/
def track (l : Ledger) (label : String) : Nat × Ledger :=
  let generation := l.generations + 1
  (generation, { l with series := l.series.insert label { generation }, generations := generation })

/-- Forgets a label. -/
def forget (l : Ledger) (label : String) : Ledger :=
  { l with series := l.series.erase label }

/-- Whether a generation is the present registration of a label. -/
def isCurrent (l : Ledger) (label : String) (generation : Nat) : Bool :=
  (l.series? label).any (·.generation = generation)

/-- Counts a tick. -/
def beginTick (l : Ledger) : Ledger := { l with ticks := l.ticks + 1 }

/-- Marks a fetch as outstanding and tells its generation. If one is outstanding already there is
no fetch, and the label's skipped ticks are counted up. -/
def beginFetch (l : Ledger) (label : String) : Option Nat × Ledger :=
  match l.series? label with
  | some s =>
    if s.inFlight then (none, l.alter label fun s => { s with skipped := s.skipped + 1 })
    else (some s.generation, l.alter label fun s => { s with inFlight := true })
  | none => (none, l)

/-- Marks a registration's fetch as ended. A label's later registration is left alone. -/
def finishFetch (l : Ledger) (label : String) (generation : Nat) : Ledger :=
  l.alter label fun s => if s.generation = generation then { s with inFlight := false } else s

/-- Records a sample with a value. -/
def recordSuccess (l : Ledger) (label : String) (timestamp : UInt64) : Change × Ledger :=
  (((l.series? label).map Series.changeOnSuccess).getD .none,
    l.alter label fun s => s.succeed timestamp)

/-- Records a sample without a value. -/
def recordFailure (l : Ledger) (label : String) (threshold : UInt32) : Change × Ledger :=
  (((l.series? label).map (·.changeOnFailure threshold)).getD .none,
    l.alter label fun s => s.fail threshold)

/-- Records a sample, by whether it has a value. -/
def record (l : Ledger) (threshold : UInt32) (s : Sample) : Change × Ledger :=
  if s.isFailure then l.recordFailure s.label threshold else l.recordSuccess s.label s.timestamp

/-- Sets a label's count of failures. -/
def setFailures (l : Ledger) (label : String) (count : UInt32) : Ledger :=
  l.alter label fun s => { s with failures := count }

end Ledger

end MetricWatch
