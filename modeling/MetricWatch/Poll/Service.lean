import MetricWatch.Poll.Poller

/-!
A poller at work, together with the fetches that it has issued and that have not ended. Everything
that can happen to it is an action, and each action is one step: what callers ask for, a tick of any
loop that was ever started, and what becomes of a fetch. An action that cannot happen changes
nothing.
-/

namespace MetricWatch

/-- An issued fetch that has not ended. -/
structure Task where
  number : Nat
  fetch : Fetch
  /-- Whether the source has been asked. -/
  asked : Bool := false
  deriving DecidableEq

/-- A poller and its tasks. -/
structure Service where
  poller : Poller
  /-- The tasks that have not ended, oldest first. -/
  tasks : List Task := []
  /-- How many fetches have been issued. -/
  issued : Nat := 0
  deriving DecidableEq

namespace Service

/-- What callers can ask without changing anything. -/
inductive Query where
  | definitions
  | cadence
  /-- The poller in short. -/
  | summary

/-- Something that happens to a service. -/
inductive Action where
  | register (d : Definition)
  | unregister (label : String)
  | start (inRuntime : Bool)
  | stop
  /-- A tick of the loop of a run. -/
  | tick (epoch : Nat)
  /-- A task begins: it asks the source, unless its run has ended. -/
  | ask (task : Nat)
  /-- The source answers a task that has asked it. -/
  | reply (task : Nat) (s : Sample)
  /-- A task that has asked the source breaks off without an answer. -/
  | abandon (task : Nat)
  /-- Someone turns to the registry directly. -/
  | registry (a : Registry.Action)
  | query (q : Query)

/-- What a service answers. -/
inductive Answer where
  | done
  /-- Whether what was asked for could be done. -/
  | outcome (result : Except Error Unit)
  | unregistered (d : Option Definition)
  | registry (a : Registry.Answer)
  | definitions (ds : List Definition)
  | cadence (c : Cadence)
  | summary (text : String)

/-- What an action causes besides the next state. -/
structure Effect where
  answer : Answer := .done
  /-- The run whose loop was started. -/
  started : Option Nat := none
  /-- The tasks for the fetches that a tick issued. -/
  issued : List Task := []
  /-- The fetch for which the source was asked. -/
  asked : Option Fetch := none
  /-- What the poller told the registry's subscribers. -/
  events : List Event := []
  /-- What reached single subscribers. -/
  deliveries : List Delivery := []

/-- A task by its number and by whether it has asked the source. -/
def task? (s : Service) (number : Nat) (asked : Bool) : Option Task :=
  s.tasks.find? fun t => t.number = number && t.asked = asked

/-- Tasks for fetches, numbered from `first` on. -/
def tasksFrom (first : Nat) : List Fetch → List Task
  | [] => []
  | fetch :: rest => { number := first, fetch } :: tasksFrom (first + 1) rest

/-- Marks a task as having asked the source. -/
def markAsked (s : Service) (t : Task) : Service :=
  { s with tasks := s.tasks.map fun u =>
      if u.number = t.number then { u with asked := true } else u }

/-- Ends a task, whatever came of it. -/
def endTask (s : Service) (t : Task) : Service :=
  { s with poller := s.poller.finish t.fetch, tasks := s.tasks.filter (·.number ≠ t.number) }

/-- Takes in the sample that the source gave to a task, unless it is for another label. -/
def accept (s : Service) (t : Task) (x : Sample) : List Event × Service :=
  if x.label = t.fetch.definition.label then
    let (events, poller) := s.poller.deliver t.fetch.epoch t.fetch.generation x
    (events, { s with poller })
  else ([], s)

/-- Adds a definition. -/
def register (s : Service) (d : Definition) : Service × Effect :=
  match s.poller.register d with
  | .ok poller => ({ s with poller }, { answer := .outcome (.ok ()) })
  | .error e => (s, { answer := .outcome (.error e) })

/-- Takes a label's definition off. -/
def unregister (s : Service) (label : String) : Service × Effect :=
  match s.poller.unregister label with
  | some (d, poller) => ({ s with poller }, { answer := .unregistered (some d) })
  | none => (s, { answer := .unregistered none })

/-- Begins a run. -/
def start (s : Service) (inRuntime : Bool) : Service × Effect :=
  match s.poller.start inRuntime with
  | .ok poller =>
    ({ s with poller }, { answer := .outcome (.ok ()), started := some poller.epoch })
  | .error e => (s, { answer := .outcome (.error e) })

/-- A tick of a run's loop. -/
def tick (s : Service) (epoch : Nat) : Service × Effect :=
  let (fetches, poller) := s.poller.tick epoch
  let tasks := tasksFrom s.issued fetches
  ({ poller, tasks := s.tasks ++ tasks, issued := s.issued + fetches.length }, { issued := tasks })

/-- Begins a task. If its run has ended, the source is not asked and the task ends. -/
def ask (s : Service) (number : Nat) : Service × Effect :=
  match s.task? number false with
  | some t =>
    if s.poller.isCurrent t.fetch.epoch then (s.markAsked t, { asked := some t.fetch })
    else (s.endTask t, {})
  | none => (s, {})

/-- Takes in the source's answer to a task, which then ends. -/
def reply (s : Service) (number : Nat) (x : Sample) : Service × Effect :=
  match s.task? number true with
  | some t =>
    let (events, s) := s.accept t x
    (s.endTask t, { events, deliveries := events.flatMap s.poller.registry.broadcast })
  | none => (s, {})

/-- Ends a task that broke off. -/
def abandon (s : Service) (number : Nat) : Service × Effect :=
  match s.task? number true with
  | some t => (s.endTask t, {})
  | none => (s, {})

/-- Hands an action on to the registry. -/
def forward (s : Service) (a : Registry.Action) : Service × Effect :=
  let o := s.poller.registry.step a
  ({ s with poller := { s.poller with registry := o.registry } },
    { answer := .registry o.answer, deliveries := o.deliveries })

/-- The answer to a query. -/
def inform (s : Service) : Query → Answer
  | .definitions => .definitions s.poller.definitions
  | .cadence => .cadence s.poller.cadence
  | .summary => .summary s.poller.text

/-- What happens when an action takes place. -/
def step (s : Service) : Action → Service × Effect
  | .register d => s.register d
  | .unregister label => s.unregister label
  | .start inRuntime => s.start inRuntime
  | .stop => ({ s with poller := s.poller.stop }, {})
  | .tick epoch => s.tick epoch
  | .ask number => s.ask number
  | .reply number x => s.reply number x
  | .abandon number => s.abandon number
  | .registry a => s.forward a
  | .query q => (s, { answer := s.inform q })

end Service

end MetricWatch
