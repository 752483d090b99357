import MetricWatch.Registry.Event
import MetricWatch.Text.Quoted

/-!
The registry keeps the newest value of each label and tells its subscribers of every change, in the
order in which they subscribed. It keeps no history: a label has one cached sample at most.
-/

namespace MetricWatch

/-- The cached samples, how new a sample of each label has to be, and who listens. -/
structure Registry where
  /-- The last accepted sample with a value, by label. -/
  latest : LabelMap Sample := .empty
  /-- The timestamp of the last accepted sample, failed ones included, by label. -/
  newest : LabelMap UInt64 := .empty
  subscribers : List Subscription := []
  /-- How many subscriptions have been given out. Their numbers are not used again. -/
  issued : Nat := 0
  deriving DecidableEq

namespace Registry

/-- Whether a sample is no older than the newest one of its label. -/
def accepts (r : Registry) (s : Sample) : Bool :=
  match r.newest.get? s.label with
  | some newest => newest ≤ s.timestamp
  | none => true

/-- Takes in a sample. A failed one leaves the cached sample as it is. -/
def record (r : Registry) (s : Sample) : Registry where
  latest := if s.isFailure then r.latest else r.latest.insert s.label s
  newest := r.newest.insert s.label s.timestamp
  subscribers := r.subscribers
  issued := r.issued

/-- The registry after a sample, if the sample is accepted. -/
def update? (r : Registry) (s : Sample) : Option Registry :=
  if r.accepts s then some (r.record s) else none

/-- Tells every subscriber of an event. -/
def broadcast (r : Registry) (e : Event) : List Delivery :=
  r.subscribers.map fun s => ⟨s, e⟩

/-- Adds a subscriber at the end, under a new number. -/
def subscribe (r : Registry) : Subscription × Registry :=
  let s : Subscription := ⟨r.issued⟩
  (s, { r with subscribers := r.subscribers ++ [s], issued := r.issued + 1 })

/-- What a new subscriber is told at once. -/
def welcome (r : Registry) (s : Subscription) : Delivery := ⟨s, .snapshot r.latest⟩

/-- Whether a subscription is still listening. -/
def listening (r : Registry) (s : Subscription) : Bool := r.subscribers.contains s

/-- Takes a subscriber off. -/
def unsubscribe (r : Registry) (s : Subscription) : Registry :=
  { r with subscribers := r.subscribers.filter (· ≠ s) }

/-- Forgets all about a label. A sample of any age is accepted for it afterwards. -/
def remove (r : Registry) (label : String) : Registry :=
  { r with latest := r.latest.erase label, newest := r.newest.erase label }

/-- The registry in short: its cached labels and how many listen. -/
def text (r : Registry) : String :=
  "SeriesRegistry \x7b labels: [" ++ ", ".intercalate (r.latest.labels.map Text.quoted) ++
    "], subscribers: " ++ toString r.subscribers.length ++ " \x7d"

/-- Something that is asked of a registry. -/
inductive Action where
  | update (s : Sample)
  | warn (w : Warning)
  | recover (label : String)
  | subscribe
  | unsubscribe (s : Subscription)
  | remove (label : String)

/-- What a registry answers. -/
inductive Answer where
  | done
  /-- Whether the sample was accepted, or whether the subscription was still listening. -/
  | flag (b : Bool)
  | subscribed (s : Subscription)
  | removed (s : Option Sample)
  deriving DecidableEq

/-- What an action leads to. -/
structure Outcome where
  registry : Registry
  answer : Answer := .done
  deliveries : List Delivery := []

/-- Carries out an action. -/
def step (r : Registry) : Action → Outcome
  | .update s =>
    match r.update? s with
    | some r' => ⟨r', .flag true, r.broadcast (.sample s)⟩
    | none => ⟨r, .flag false, []⟩
  | .warn w => ⟨r, .done, r.broadcast (.degraded w)⟩
  | .recover label => ⟨r, .done, r.broadcast (.recovered label)⟩
  | .subscribe => ⟨r.subscribe.2, .subscribed r.subscribe.1, [r.welcome r.subscribe.1]⟩
  | .unsubscribe s => ⟨r.unsubscribe s, .flag (r.listening s), []⟩
  | .remove label => ⟨r.remove label, .removed (r.latest.get? label), []⟩

end Registry

end MetricWatch
