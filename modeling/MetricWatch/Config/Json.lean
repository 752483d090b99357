import MetricWatch.Config.Validation
import MetricWatch.Metric.Json

/-!
Panels and configurations as JSON, and configurations from texts and files. A configuration may
leave out any of its members.
-/

namespace MetricWatch

open Json (Reader Record Problem Fault)

namespace Panel

/-- The members of a panel that have been read. -/
structure Draft where
  title : Option String := none
  counter : Option String := none
  aggregate : Option Aggregate := none

/-- A panel's members. -/
def record : Record Draft where
  name := "Panel"
  fields := [
    .storing "title" (·.title.isSome) Json.text fun d x => { d with title := some x },
    .storing "counter" (·.counter.isSome) Json.text fun d x => { d with counter := some x },
    .storing "aggregate" (·.aggregate.isSome) Aggregate.read fun d x =>
      { d with aggregate := some x }]

/-- The panel of a complete draft. -/
def Draft.finish (d : Draft) : Except Problem Panel := do
  let title ← Json.require "title" d.title
  let counter ← Json.require "counter" d.counter
  let aggregate ← Json.require "aggregate" d.aggregate
  .ok { title, counter, aggregate }

/-- Reads a panel. -/
def read : Reader Panel := record.read {} Draft.finish

/-- A panel as it is written. -/
def jsonChars (p : Panel) : List Char :=
  Json.objectChars [
    Json.memberChars "title" (Json.textChars p.title),
    Json.memberChars "counter" (Json.textChars p.counter),
    Json.memberChars "aggregate" p.aggregate.jsonChars]

/-- The panel that a text holds. -/
def parse (s : String) : Except Fault Panel := Json.whole read (Json.symbols s)

end Panel

namespace Config

/-- The members of a configuration that have been read. -/
structure Draft where
  endpoint : Option String := none
  mbean : Option String := none
  tickInterval : Option UInt64 := none
  failureThreshold : Option UInt32 := none
  requestTimeout : Option UInt64 := none
  metrics : Option (List Definition) := none
  panels : Option (List Panel) := none

/-- A configuration's members. Each may be left out. -/
def record : Record Draft where
  name := "MonitorConfig"
  fields := [
    .storing "endpoint_url" (·.endpoint.isSome) Json.text
      (fun d x => { d with endpoint := some x }) true,
    .storing "mbean" (·.mbean.isSome) Json.text
      (fun d x => { d with mbean := some x }) true,
    .storing "tick_interval_ms" (·.tickInterval.isSome) Json.word64
      (fun d x => { d with tickInterval := some x }) true,
    .storing "failure_threshold" (·.failureThreshold.isSome) Json.word32
      (fun d x => { d with failureThreshold := some x }) true,
    .storing "request_timeout_ms" (·.requestTimeout.isSome) Json.word64
      (fun d x => { d with requestTimeout := some x }) true,
    .storing "metrics" (·.metrics.isSome) (Json.list Definition.read)
      (fun d x => { d with metrics := some x }) true,
    .storing "panels" (·.panels.isSome) (Json.list Panel.read)
      (fun d x => { d with panels := some x }) true]

/-- The configuration of a draft, with the default for each member that is missing. -/
def Draft.complete (d : Draft) : Config :=
  let default : Config := {}
  { endpoint := d.endpoint.getD default.endpoint
    mbean := d.mbean.getD default.mbean
    tickInterval := d.tickInterval.getD default.tickInterval
    failureThreshold := d.failureThreshold.getD default.failureThreshold
    requestTimeout := d.requestTimeout.getD default.requestTimeout
    metrics := d.metrics.getD default.metrics
    panels := d.panels.getD default.panels }

/-- Reads a configuration. -/
def read : Reader Config := record.read {} fun d => .ok d.complete

/-- A configuration's members as they are written, in their order. -/
def jsonMembers (c : Config) : List (List Char) := [
  Json.memberChars "endpoint_url" (Json.textChars c.endpoint),
  Json.memberChars "mbean" (Json.textChars c.mbean),
  Json.memberChars "tick_interval_ms" (Json.naturalChars c.tickInterval.toNat),
  Json.memberChars "failure_threshold" (Json.naturalChars c.failureThreshold.toNat),
  Json.memberChars "request_timeout_ms" (Json.naturalChars c.requestTimeout.toNat),
  Json.memberChars "metrics" (Json.listChars (c.metrics.map Definition.jsonChars)),
  Json.memberChars "panels" (Json.listChars (c.panels.map Panel.jsonChars))]

/-- A configuration as it is written. -/
def jsonChars (c : Config) : List Char := Json.objectChars c.jsonMembers

/-- The configuration that a text holds, whether it can be used or not. -/
def parse (s : String) : Except Fault Config := Json.whole read (Json.symbols s)

/-- The configuration that a text holds, if it can be used. -/
def load (s : String) : Except Error Config :=
  match parse s with
  | .error fault => .error (.json fault)
  | .ok c => c.validate.map fun () => c

/-- What stands at the place where a configuration is looked for. -/
inductive Source where
  | file (bytes : List UInt8)
  | directory
  | missing

/-- The configuration at some place, if it can be used. A file must be a text. -/
def loadFrom : Source → Except Error Config
  | .missing => .error (.file .missing)
  | .directory => .error (.file .directory)
  | .file bytes =>
    match Json.text? (Json.decode bytes) with
    | some s => load s
    | none => .error (.file .notText)

end Config

end MetricWatch
