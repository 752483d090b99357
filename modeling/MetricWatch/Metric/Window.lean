/-!
The windows over which the bridge summarises a counter, and the figures that it computes for one.
-/

namespace MetricWatch

/-- A period that a counter is summarised over. -/
inductive Window where
  | lastMinute
  | lastHour
  | lastDay
  | lastWeek
  | lastMonth
  deriving DecidableEq, Repr

namespace Window

/-- Every window, shortest first. -/
def all : List Window := [lastMinute, lastHour, lastDay, lastWeek, lastMonth]

/-- The window's part of an attribute path. -/
def segment : Window → String
  | lastMinute => "lastMinute"
  | lastHour => "lastHour"
  | lastDay => "lastDay"
  | lastWeek => "lastWeek"
  | lastMonth => "lastMonth"

/-- What a window is called on a chart. -/
def displayName : Window → String
  | lastMinute => "Last Minute"
  | lastHour => "Last Hour"
  | lastDay => "Last Day"
  | lastWeek => "Last Week"
  | lastMonth => "Last Month"

/-- Every window under its path segment. -/
def named : List (String × Window) := all.map fun w => (w.segment, w)

end Window

/-- A figure that the bridge computes over a window. -/
inductive Aggregate where
  | sum
  | avg
  | stdDev
  | min
  | max
  deriving DecidableEq, Repr

namespace Aggregate

/-- Every figure. -/
def all : List Aggregate := [sum, avg, stdDev, min, max]

/-- The figure's part of an attribute path. -/
def segment : Aggregate → String
  | sum => "sum"
  | avg => "avg"
  | stdDev => "stdDev"
  | min => "min"
  | max => "max"

/-- Every figure under its path segment. -/
def named : List (String × Aggregate) := all.map fun a => (a.segment, a)

end Aggregate

end MetricWatch
