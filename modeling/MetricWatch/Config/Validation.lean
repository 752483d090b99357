import MetricWatch.Config.Basic

/-!
Which configurations can be used. The first thing that is wrong with one is the reason to refuse
it.
-/

namespace MetricWatch

/-- The first label that repeats an earlier one, `seen` being the labels before. -/
def repeatedLabel? (seen : List String) : List String → Option String
  | [] => none
  | label :: rest => if label ∈ seen then some label else repeatedLabel? (label :: seen) rest

namespace Config

/-- The schemes that an endpoint may have. -/
def schemes : List String := ["http://", "https://"]

/-- Whether a text begins with a scheme that an endpoint may have. -/
def hasScheme (endpoint : String) : Bool :=
  schemes.any fun scheme => scheme.toList.isPrefixOf endpoint.toList

/-- Refuses definitions that share a label. -/
def checkLabels (definitions : List Definition) : Except Error Unit :=
  match repeatedLabel? [] (definitions.map (·.label)) with
  | some label => .error (.duplicateLabel label)
  | none => .ok ()

/-- What is wrong with a configuration's own values. The endpoint may stand between blanks. -/
def problem? (c : Config) : Option ConfigProblem :=
  let endpoint := Text.trim c.endpoint
  if endpoint = "" then some .emptyEndpoint
  else if !hasScheme endpoint then some (.endpointScheme endpoint)
  else if Text.isBlankText c.mbean then some .emptyMBean
  else if c.tickInterval < minTickInterval || maxTickInterval < c.tickInterval then
    some (.tickIntervalOutside c.tickInterval)
  else if c.failureThreshold = 0 then some .noFailureThreshold
  else if c.requestTimeout = 0 then some .noRequestTimeout
  else none

/-- Refuses a configuration that cannot be used. -/
def validate (c : Config) : Except Error Unit :=
  match c.problem? with
  | some problem => .error (.config problem)
  | none => do checkLabels (← c.definitions)

end Config

end MetricWatch
