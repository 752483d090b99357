import MetricWatch.Metric.Definition

/-!
Configurations: everything that is needed to watch one bridge. Two dashboards that differ in
endpoint and counters only are two configurations.
-/

namespace MetricWatch

/-- One chart: a figure of a counter, polled over every window. -/
structure Panel where
  title : String
  counter : String
  aggregate : Aggregate
  deriving DecidableEq, Repr

namespace Panel

/-- The label of a panel's series over a window. -/
def label (title : String) (window : Window) : String := title ++ " / " ++ window.displayName

/-- A panel's definitions, one for each window. -/
def definitions (p : Panel) : Except Error (List Definition) :=
  Window.all.mapM fun window =>
    Definition.windowed p.counter window p.aggregate (label p.title window)

end Panel

/-- What to watch and how. Times are in milliseconds. -/
structure Config where
  endpoint : String := ""
  mbean : String := defaultMBean
  tickInterval : UInt64 := defaultTickInterval
  failureThreshold : UInt32 := defaultFailureThreshold
  requestTimeout : UInt64 := defaultRequestTimeout
  metrics : List Definition := []
  panels : List Panel := []
  deriving DecidableEq

namespace Config

/-- The configuration that says nothing but its endpoint. -/
def ofEndpoint (endpoint : String) : Config := { endpoint }

/-- The configuration with one more metric. -/
def withMetric (c : Config) (d : Definition) : Config := { c with metrics := c.metrics ++ [d] }

/-- The configuration with one more panel. -/
def withPanel (c : Config) (p : Panel) : Config := { c with panels := c.panels ++ [p] }

/-- The definitions to poll: the metrics, and then those of each panel, in the order in which the
configuration lists them. -/
def definitions (c : Config) : Except Error (List Definition) := do
  let expanded ← c.panels.mapM Panel.definitions
  .ok (c.metrics ++ expanded.flatten)

end Config

end MetricWatch
