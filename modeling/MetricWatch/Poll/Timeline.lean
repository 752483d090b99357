import MetricWatch.Poll.Service

/-!
A service under a clock. Time passes from one due timer to the next, and what is due then runs at
once: the tick loop of each run, which stands on its grid, and the answers of the source, which come
after a delay. Jobs that are ready run in the order in which they became ready.
-/

namespace MetricWatch

/-- Something that callers ask of a service. A definition is given by its texts. -/
inductive Command where
  | register (name path label : String)
  | unregister (label : String)
  | start
  | stop
  | registry (a : Registry.Action)
  | query (q : Service.Query)

/-- How the source answers one fetch. What is left open is filled in when the answer comes. -/
structure Reply where
  value : Option Float := none
  error : Option String := none
  /-- Milliseconds until the answer comes. Without a number it never comes. -/
  delay : Option Nat := some 0
  timestamp : Option UInt64 := none
  label : Option String := none
  /-- What the source asks of the service before it answers. -/
  command : Option Command := none

/-- The sample of a reply that comes at some time. -/
def Reply.sample (r : Reply) (d : Definition) (now : Nat) : Sample where
  label := r.label.getD d.label
  timestamp := r.timestamp.getD now.toUInt64
  value := r.value
  error := r.error

/-- How the source answers: by the label and by how often the label was asked for before. -/
abbrev Source := String → Nat → Reply

/-- The source that reads its answers off a list for each label. The last one is repeated. -/
def Source.ofScripts (scripts : LabelMap (List Reply)) : Source := fun label n =>
  match scripts.get? label with
  | some replies => (replies[n]?.or replies.getLast?).getD {}
  | none => {}

/-- Work that runs when its time comes. -/
inductive Job where
  /-- The tick loop of a run, and when its tick was due. Its first tick is due when it first
  runs. -/
  | loop (epoch : Nat) (due : Option Nat)
  /-- A task begins. -/
  | ask (task : Nat)
  /-- The answer to a task comes. -/
  | reply (task : Nat) (d : Definition) (r : Reply)

/-- A job that waits for its time. -/
structure Timer where
  due : Nat
  job : Job

/-- Something that happened. -/
inductive Notice where
  | ticked
  /-- The source was asked, and answered its own command so. -/
  | asked (d : Definition) (answer : Option Service.Answer)
  | told (d : Delivery)

/-- What happened, and when. -/
structure Entry where
  time : Nat
  notice : Notice

/-- A service and all that goes on around it. -/
structure Timeline where
  clock : Nat := 0
  service : Service
  source : Source
  /-- Whether there is a runtime that jobs can run on. -/
  inRuntime : Bool := true
  /-- How often the source was asked, by label. -/
  asked : LabelMap Nat := .empty
  /-- The jobs to run now, in this order. -/
  ready : List Job := []
  /-- The jobs to run later, soonest first. -/
  timers : List Timer := []
  /-- What happened, oldest first. -/
  log : Array Entry := #[]

namespace Timeline

/-- Notes what happened. -/
def note (t : Timeline) (notices : List Notice) : Timeline :=
  { t with log := t.log ++ notices.map fun n => { time := t.clock, notice := n : Entry } }

/-- Puts a timer after those that are due no later. -/
def insertTimer (t : Timer) : List Timer → List Timer
  | [] => [t]
  | u :: rest => if t.due < u.due then t :: u :: rest else u :: insertTimer t rest

/-- Puts a job off. -/
def putOff (t : Timeline) (due : Nat) (job : Job) : Timeline :=
  { t with timers := insertTimer ⟨due, job⟩ t.timers }

/-- Lets an action take place, and makes the jobs ready that follow from it. -/
def act (t : Timeline) (a : Service.Action) : Timeline × Service.Effect :=
  let (service, effect) := t.service.step a
  let jobs := effect.started.toList.map (Job.loop · none) ++
    effect.issued.map (Job.ask ·.number)
  (({ t with service, ready := t.ready ++ jobs }).note (effect.deliveries.map .told), effect)

/-- Carries out a command. -/
def perform (t : Timeline) : Command → Timeline × Service.Answer
  | .register name path label =>
    match Definition.make name path label with
    | .ok d => let (t, effect) := t.act (.register d); (t, effect.answer)
    | .error e => (t, .outcome (.error e))
  | .unregister label => let (t, effect) := t.act (.unregister label); (t, effect.answer)
  | .start => let (t, effect) := t.act (.start t.inRuntime); (t, effect.answer)
  | .stop => let (t, effect) := t.act .stop; (t, effect.answer)
  | .registry a => let (t, effect) := t.act (.registry a); (t, effect.answer)
  | .query q => let (t, effect) := t.act (.query q); (t, effect.answer)

/-- Lets the answer to a task come. -/
def finish (t : Timeline) (task : Nat) (d : Definition) (r : Reply) : Timeline :=
  (t.act (.reply task (r.sample d t.clock))).1

/-- Carries out what the source asks for, if anything. -/
def obey (t : Timeline) : Option Command → Timeline × Option Service.Answer
  | some command => let (t, answer) := t.perform command; (t, some answer)
  | none => (t, none)

/-- The source is asked for a definition. An answer without delay comes at once. -/
def consult (t : Timeline) (task : Nat) (d : Definition) : Timeline :=
  let count := (t.asked.get? d.label).getD 0
  let r := t.source d.label count
  let (t, answer) := { t with asked := t.asked.insert d.label (count + 1) }.obey r.command
  let t := t.note [.asked d answer]
  match r.delay with
  | some 0 => t.finish task d r
  | some delay => t.putOff (t.clock + delay) (.reply task d r)
  | none => t

/-- One tick of a run's loop. -/
def tick (t : Timeline) (epoch : Nat) : Timeline := (t.note [.ticked]).act (.tick epoch) |>.1

/-- Runs the loop of a run that goes on: the ticks that are due, and then a wait for the next. -/
def runLoop (t : Timeline) (epoch due : Nat) : Timeline :=
  let cadence := t.service.poller.cadence
  let next := cadence.next due t.clock
  ((cadence.ticksDue due t.clock).repeat (·.tick epoch) t).putOff next (.loop epoch (some next))

/-- Runs a job. The loop of a run that has ended is over. -/
def run (t : Timeline) : Job → Timeline
  | .loop epoch due =>
    if t.service.poller.isCurrent epoch then t.runLoop epoch (due.getD t.clock) else t
  | .ask task =>
    let (t, effect) := t.act (.ask task)
    match effect.asked with
    | some fetch => t.consult task fetch.definition
    | none => t
  | .reply task d r => t.finish task d r

/-- Runs the jobs that are ready. Those that become ready meanwhile wait. -/
def round (t : Timeline) : Timeline := t.ready.foldl run { t with ready := [] }

/-- Runs all that is ready. A loop makes tasks ready to begin, and these make nothing ready, so that
two rounds are enough. -/
def settle (t : Timeline) : Timeline := if t.inRuntime then t.round.round else t

/-- Lets some milliseconds pass at once. What became due is ready then, soonest first. -/
def pass (t : Timeline) (milliseconds : Nat) : Timeline :=
  let now := t.clock + milliseconds
  { t with
    clock := now
    ready := t.ready ++ (t.timers.takeWhile (·.due ≤ now)).map (·.job)
    timers := t.timers.dropWhile (·.due ≤ now) }

/-- The milliseconds until a timer is due. What is overdue has to wait for the next one. -/
def wait (t : Timeline) (timer : Timer) : Nat := max 1 (timer.due - t.clock)

/-- Lets some milliseconds pass, from one due timer to the next, and runs what each one wakes. -/
def elapse (milliseconds : Nat) (t : Timeline) : Timeline :=
  match t.timers.head? with
  | some timer =>
    if t.wait timer ≤ milliseconds then
      elapse (milliseconds - t.wait timer) (t.pass (t.wait timer)).settle
    else t.pass milliseconds
  | none => t.pass milliseconds
termination_by milliseconds
decreasing_by simp only [wait] at *; omega

/-- Runs what is ready, and then lets some milliseconds pass, running what becomes due. Without a
runtime there is no clock. -/
def advance (t : Timeline) (milliseconds : Nat) : Timeline :=
  if t.inRuntime then elapse milliseconds t.settle else t

/-- Lets some milliseconds pass at once, and then runs what is ready. -/
def jump (t : Timeline) (milliseconds : Nat) : Timeline :=
  if t.inRuntime then (t.pass milliseconds).settle else t

end Timeline

end MetricWatch
