import MetricWatch.Bridge.Basic
import MetricWatch.Bridge.Source
import MetricWatch.Config.Validation
import MetricWatch.Poll.Poller

/-!
Dashboards: a configuration that can be used, with the bridge that it names and a poller for its
definitions.
-/

namespace MetricWatch

/-- Everything that one page needs. -/
structure Dashboard where
  config : Config
  bridge : Bridge
  poller : Poller

namespace Dashboard

/-- The dashboard of a configuration, not started. -/
def ofConfig (c : Config) : Except Error Dashboard := do
  c.validate
  let poller ← Poller.ofConfig c
  .ok { config := c, bridge := Bridge.ofConfig c, poller }

/-- The sample that reading a definition from the bridge gives. -/
def sample (d : Dashboard) (exchange : Address → ReadRequest → RoundTrip) (timestamp : UInt64)
    (definition : Definition) : Sample :=
  definition.sample timestamp (d.bridge.read exchange definition.name definition.path)

/-- Takes in the samples of some fetches, one after the other. -/
def takeIn (sampleOf : Definition → Sample) : List Fetch → Poller → List Event × Poller
  | [], p => ([], p)
  | f :: rest, p =>
    let (events, p) := p.deliver f.epoch f.generation (sampleOf f.definition)
    let (later, p) := takeIn sampleOf rest (p.finish f)
    (events ++ later, p)

/-- A run of one tick: every definition is fetched once, and then the run ends. -/
def pollOnce (d : Dashboard) (exchange : Address → ReadRequest → RoundTrip) (timestamp : UInt64) :
    Except Error (List Event × Dashboard) := do
  let started ← d.poller.start true
  let (fetches, ticked) := started.tick started.epoch
  let (events, poller) := takeIn (d.sample exchange timestamp) fetches ticked
  .ok (events, { d with poller := poller.stop })

end Dashboard

end MetricWatch
