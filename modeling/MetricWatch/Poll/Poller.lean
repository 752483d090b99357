import MetricWatch.Config.Basic
import MetricWatch.Poll.Cadence
import MetricWatch.Poll.Ledger
import MetricWatch.Registry.Basic

/-!
The poller: on every tick of a run it issues one fetch for each definition that has none
outstanding, and it takes the samples into its registry. A fetch carries the run and the
registration that it was issued for. What belongs to an earlier run or registration is discarded.
-/

namespace MetricWatch

/-- A fetch: the run and the registration that it was issued for, and what it reads. -/
structure Fetch where
  epoch : Nat
  generation : Nat
  definition : Definition
  deriving DecidableEq

/-- Everything that the poller keeps. -/
structure Poller where
  cadence : Cadence
  definitions : List Definition := []
  ledger : Ledger := {}
  running : Bool := false
  /-- The number of the last run that was started. -/
  epoch : Nat := 0
  /-- The run whose tick loop is held. -/
  loop : Option Nat := none
  registry : Registry := {}
  deriving DecidableEq

namespace Poller

/-- Whether a label has a definition. -/
def registered (p : Poller) (label : String) : Bool := p.definitions.any (·.label = label)

/-- Adds a definition. It is polled from the next tick on. -/
def register (p : Poller) (d : Definition) : Except Error Poller :=
  if p.registered d.label then .error (.duplicateLabel d.label)
  else .ok {
    p with definitions := p.definitions ++ [d], ledger := (p.ledger.track d.label).2 }

/-- Takes a label's definition off, and with it what is known and cached of the label. -/
def unregister (p : Poller) (label : String) : Option (Definition × Poller) :=
  (p.definitions.find? (·.label = label)).map fun d =>
    (d, { p with
      definitions := p.definitions.eraseP (·.label = label)
      ledger := p.ledger.forget label
      registry := p.registry.remove label })

/-- Begins a run. Its tick loop needs a runtime to run on. -/
def start (p : Poller) (inRuntime : Bool) : Except Error Poller :=
  if p.loop.isSome then .error (.scheduler .alreadyRunning)
  else if inRuntime then
    .ok { p with running := true, epoch := p.epoch + 1, loop := some (p.epoch + 1) }
  else .error (.scheduler .outsideRuntime)

/-- Ends the run, if there is one. -/
def stop (p : Poller) : Poller :=
  if p.running then { p with running := false, loop := none } else p

/-- Whether a run goes on. -/
def isCurrent (p : Poller) (epoch : Nat) : Bool := p.running && p.epoch = epoch

/-- The fetches that a run issues for some definitions, and the ledger afterwards. -/
def issue (epoch : Nat) : List Definition → Ledger → List Fetch × Ledger
  | [], l => ([], l)
  | d :: ds, l =>
    match l.beginFetch d.label with
    | (some generation, l) =>
      let (fetches, l) := issue epoch ds l
      (⟨epoch, generation, d⟩ :: fetches, l)
    | (none, l) => issue epoch ds l

/-- A tick of a run's loop. It has no effect if the run has ended. -/
def tick (p : Poller) (epoch : Nat) : List Fetch × Poller :=
  if p.isCurrent epoch then
    let (fetches, ledger) := issue epoch p.definitions p.ledger.beginTick
    (fetches, { p with ledger })
  else ([], p)

/-- Takes in the sample of a fetch, and tells what the registry's subscribers hear. The sample is
discarded if the run has ended or the label has been registered anew. -/
def deliver (p : Poller) (epoch generation : Nat) (s : Sample) : List Event × Poller :=
  if p.isCurrent epoch && p.ledger.isCurrent s.label generation then
    let (change, ledger) := p.ledger.record p.cadence.threshold s
    let (accepted, registry) :=
      match p.registry.update? s with
      | some registry => ([Event.sample s], registry)
      | none => ([], p.registry)
    (accepted ++ (change.event? s).toList, { p with ledger, registry })
  else ([], p)

/-- Marks a fetch as ended. -/
def finish (p : Poller) (f : Fetch) : Poller :=
  { p with ledger := p.ledger.finishFetch f.definition.label f.generation }

/-- The poller of a configuration, stopped, with all its definitions. -/
def ofConfig (c : Config) : Except Error Poller := do
  let cadence ← Cadence.make c.tickInterval c.failureThreshold
  (← c.definitions).foldlM register { cadence }

/-- The poller in short. -/
def text (p : Poller) : String :=
  "PollScheduler \x7b tick_interval: " ++ Cadence.durationText p.cadence.interval.toNat ++
    ", failure_threshold: " ++ toString p.cadence.threshold.toNat ++
    ", definitions: " ++ toString p.definitions.length ++
    ", running: " ++ toString p.running ++ " \x7d"

end Poller

end MetricWatch
