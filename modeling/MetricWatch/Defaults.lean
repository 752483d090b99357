/-!
The numbers and names that hold where a configuration says nothing else, and the limits within
which it must stay.
-/

namespace MetricWatch

/-- Milliseconds between two ticks. -/
def defaultTickInterval : UInt64 := 1000

/-- The least number of milliseconds between two ticks. -/
def minTickInterval : UInt64 := 100

/-- The greatest number of milliseconds between two ticks. -/
def maxTickInterval : UInt64 := 3600000

/-- Failed fetches in a row after which a series is reported as degraded. -/
def defaultFailureThreshold : UInt32 := 5

/-- Milliseconds that one round trip to the bridge may take. -/
def defaultRequestTimeout : UInt64 := 5000

/-- The bean that serves the windowed request counters. -/
def defaultMBean : String := "mapcode:name=SystemMetrics"

/-- The bean that serves the memory figures. -/
def memoryMBean : String := "java.lang:type=Memory"

/-- The attribute of the memory bean that holds the heap's figures. -/
def heapMemoryAttribute : String := "HeapMemoryUsage"

/-- The path to the bytes in use among the heap's figures. -/
def heapMemoryUsedPath : String := "used"

end MetricWatch
