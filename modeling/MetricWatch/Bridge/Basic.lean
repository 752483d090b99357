import MetricWatch.Address.Basic
import MetricWatch.Bridge.Request
import MetricWatch.Bridge.Response
import MetricWatch.Bridge.Status
import MetricWatch.Config.Basic

/-!
The bridge: one address that read requests are posted to. What becomes of a request on the way is
given from outside; here stands what it is taken for.
-/

namespace MetricWatch

/-- A failure that the web client reports. -/
structure ClientFailure where
  /-- Whether there was a reply, of which the body could not be read. -/
  undecoded : Bool
  /-- Whether the time allowed was over. -/
  late : Bool
  words : String
  deriving DecidableEq

/-- What a failure of the web client is taken for. -/
def ClientFailure.error (f : ClientFailure) : Error :=
  if f.undecoded then .invalidResponse (.stated f.words)
  else if f.late then .transport (.stated ("request timed out: " ++ f.words))
  else .transport (.stated f.words)

/-- What became of a posted request. -/
inductive RoundTrip where
  /-- No connection, or one that was closed without a reply. -/
  | unsent
  /-- No reply within the time allowed. -/
  | timedOut
  | replied (status : UInt16) (body : List UInt8)
  /-- Any other failure, such as a reply that breaks off. -/
  | failed (f : ClientFailure)

/-- A bridge, and the bean that its counters are read from. -/
structure Bridge where
  endpoint : String
  mbean : String
  /-- Milliseconds that a round trip may take. -/
  timeout : UInt64
  deriving DecidableEq

namespace Bridge

/-- The bridge of a configuration. The endpoint is taken as it stands. -/
def ofConfig (c : Config) : Bridge :=
  { endpoint := c.endpoint, mbean := c.mbean, timeout := c.requestTimeout }

/-- The address that requests are posted to. -/
def address (b : Bridge) : Except TransportProblem Address :=
  match (Address.parse? b.endpoint).map Address.withoutCredentials with
  | none => .error .noAddress
  | some a => if a.isPostable then .ok a else .error (.unfitAddress a.text)

/-- The number that a round trip gave. -/
def answer (a : Address) : RoundTrip → Except Error Float
  | .unsent => .error (.transport (.unsent a.text))
  | .timedOut => .error (.transport (.timedOut a.text))
  | .replied status body =>
    if isSuccess status then
      match ReadResponse.ofBytes body with
      | .ok response => response.toNumber
      | .error _ => .error (.invalidResponse .undecodable)
    else .error (.bridge status (statusLine status))
  | .failed f => .error f.error

/-- Posts a request, of which `exchange` says what becomes, and takes the number from the reply. -/
def post (b : Bridge) (exchange : Address → ReadRequest → RoundTrip) (request : ReadRequest) :
    Except Error Float :=
  match b.address with
  | .error problem => .error (.transport problem)
  | .ok a => answer a (exchange a request)

/-- Reads an attribute of some bean. -/
def readAttribute (b : Bridge) (exchange : Address → ReadRequest → RoundTrip)
    (mbean attr : String) (path : Option String) : Except Error Float :=
  b.post exchange (ReadRequest.make mbean attr path)

/-- Reads a counter of the bridge's own bean at a path. -/
def read (b : Bridge) (exchange : Address → ReadRequest → RoundTrip) (counter path : String) :
    Except Error Float :=
  b.readAttribute exchange b.mbean counter (some path)

/-- Reads the bytes of heap in use. -/
def heapMemoryUsed (b : Bridge) (exchange : Address → ReadRequest → RoundTrip) :
    Except Error Float :=
  b.readAttribute exchange memoryMBean heapMemoryAttribute (some heapMemoryUsedPath)

end Bridge

end MetricWatch
