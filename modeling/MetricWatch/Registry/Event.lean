import MetricWatch.LabelMap
import MetricWatch.Metric.Sample

/-!
What subscribers of a registry hear of.
-/

namespace MetricWatch

/-- One subscription, known by its number. -/
structure Subscription where
  number : Nat
  deriving DecidableEq

/-- A subscription as it is shown. -/
def Subscription.text (s : Subscription) : String :=
  "SubscriptionHandle(" ++ toString s.number ++ ")"

/-- Something that subscribers are told. -/
inductive Event where
  /-- All that is cached. It is told once, on subscribing. -/
  | snapshot (latest : LabelMap Sample)
  | sample (s : Sample)
  | degraded (w : Warning)
  /-- A degraded series gave a value again. -/
  | recovered (label : String)
  deriving DecidableEq

/-- An event on its way to one subscriber. -/
structure Delivery where
  subscription : Subscription
  event : Event
  deriving DecidableEq

end MetricWatch
