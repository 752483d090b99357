import MetricWatch.Defaults
import MetricWatch.Json.Fault
import MetricWatch.Json.Value

/-!
Everything that can go wrong, by cause, and the words for each cause. Every kind of error has a
case for a cause that was found elsewhere and comes with words of its own.
-/

namespace MetricWatch

/-- Why a text cannot be posted to, or a posted request had no reply. -/
inductive TransportProblem where
  /-- The endpoint is no absolute address. -/
  | noAddress
  /-- The endpoint is an address that no request can be posted to. -/
  | unfitAddress (url : String)
  | unsent (url : String)
  | timedOut (url : String)
  | stated (words : String)

/-- Why a reply holds no number. -/
inductive ResponseProblem where
  | undecodable
  | noValue
  | notNumericText (s : String)
  | notNumeric (value : Json.Value)
  | stated (words : String)

/-- Why three texts are no metric definition. -/
inductive DefinitionProblem where
  | blankName
  | blankPath (name : String)
  | blankLabel (name : String)
  | stated (words : String)

/-- Why a configuration cannot be used. -/
inductive ConfigProblem where
  | emptyEndpoint
  | endpointScheme (endpoint : String)
  | emptyMBean
  | tickIntervalOutside (interval : UInt64)
  | noFailureThreshold
  | noRequestTimeout
  | zeroTickInterval
  | zeroFailureThreshold
  | stated (words : String)

/-- Why polling cannot begin. -/
inductive SchedulerProblem where
  | alreadyRunning
  | outsideRuntime
  | stated (words : String)

/-- Why a file cannot be read as a text. -/
inductive FileProblem where
  | missing
  | directory
  | notText
  | stated (words : String)

/-- What can go wrong. -/
inductive Error where
  | transport (problem : TransportProblem)
  | bridge (status : UInt16) (words : String)
  | invalidResponse (problem : ResponseProblem)
  | duplicateLabel (label : String)
  | invalidDefinition (problem : DefinitionProblem)
  | config (problem : ConfigProblem)
  | scheduler (problem : SchedulerProblem)
  | file (problem : FileProblem)
  | json (fault : Json.Fault)

/-- A text between single quotes, as it stands. -/
def singleQuoted (s : String) : String := "'" ++ s ++ "'"

def TransportProblem.message : TransportProblem → String
  | noAddress => "builder error"
  | unfitAddress url => "builder error for url (" ++ url ++ ")"
  | unsent url => "error sending request for url (" ++ url ++ ")"
  | timedOut url => "request timed out: error sending request for url (" ++ url ++ ")"
  | stated words => words

def ResponseProblem.message : ResponseProblem → String
  | undecodable => "error decoding response body"
  | noValue => "response has no value"
  | notNumericText s => "value is not numeric: " ++ singleQuoted s
  | notNumeric value => "value is not numeric: " ++ String.ofList value.chars
  | stated words => words

def DefinitionProblem.message : DefinitionProblem → String
  | blankName => "counter name must not be empty"
  | blankPath name => "window path for " ++ singleQuoted name ++ " must not be empty"
  | blankLabel name => "label for " ++ singleQuoted name ++ " must not be empty"
  | stated words => words

def ConfigProblem.message : ConfigProblem → String
  | emptyEndpoint => "endpoint_url must not be empty"
  | endpointScheme endpoint =>
    "endpoint_url must be an http(s) URL, got " ++ singleQuoted endpoint
  | emptyMBean => "mbean must not be empty"
  | tickIntervalOutside interval =>
    "tick_interval_ms must be between " ++ toString minTickInterval.toNat ++ " and " ++
      toString maxTickInterval.toNat ++ ", got " ++ toString interval.toNat
  | noFailureThreshold => "failure_threshold must be at least 1"
  | noRequestTimeout => "request_timeout_ms must be greater than zero"
  | zeroTickInterval => "tick interval must be greater than zero"
  | zeroFailureThreshold => "failure threshold must be at least 1"
  | stated words => words

def SchedulerProblem.message : SchedulerProblem → String
  | alreadyRunning => "scheduler is already running"
  | outsideRuntime => "start() must be called from within a tokio runtime"
  | stated words => words

def FileProblem.message : FileProblem → String
  | missing => "No such file or directory (os error 2)"
  | directory => "Is a directory (os error 21)"
  | notText => "stream did not contain valid UTF-8"
  | stated words => words

/-- The words for a fault. Only a value that does not fit its type has words of its own; the other
faults are told by where the text went wrong. -/
def Json.Fault.message : Json.Fault → String
  | truncated => "EOF while parsing"
  | malformed => "invalid JSON"
  | unfit problem => problem.message

/-- The words for an error. -/
def Error.message : Error → String
  | transport problem => "Transport error: " ++ problem.message
  | bridge status words =>
    "Bridge error (status " ++ toString status.toNat ++ "): " ++ words
  | invalidResponse problem => "Invalid response: " ++ problem.message
  | duplicateLabel label => "Label already registered: " ++ label
  | invalidDefinition problem => "Invalid metric definition: " ++ problem.message
  | config problem => "Configuration error: " ++ problem.message
  | scheduler problem => "Scheduler error: " ++ problem.message
  | file problem => "IO error: " ++ problem.message
  | json fault => "JSON error: " ++ fault.message

/-- Whether something went wrong on the way to the bridge and back, and not at the caller's. -/
def Error.isTransport : Error → Bool
  | transport _ | bridge .. | invalidResponse _ => true
  | _ => false

end MetricWatch
