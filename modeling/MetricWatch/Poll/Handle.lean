import MetricWatch.Poll.Service

/-!
A service and the handle through which callers reach it. Dropping the handle ends the run; the loops
and tasks that are left go on without it, and the registry is shared.
-/

namespace MetricWatch

/-- A service with its handle. -/
structure Handle where
  service : Service
  /-- Whether the handle has not been dropped. -/
  held : Bool := true
  deriving DecidableEq

namespace Handle

/-- Something that happens to a service with its handle. -/
inductive Action where
  | act (a : Service.Action)
  | drop

/-- Whether callers need the handle to ask for an action. -/
def needed : Service.Action → Bool
  | .register _ | .unregister _ | .start _ | .stop | .query _ => true
  | .tick _ | .ask _ | .reply .. | .abandon _ | .registry _ => false

/-- What an action asks of the service, if it can happen. Dropping the handle stops the poller. -/
def request? (h : Handle) : Action → Option Service.Action
  | .act a => if needed a && !h.held then none else some a
  | .drop => if h.held then some .stop else none

/-- Whether the handle is left after an action. -/
def kept (h : Handle) : Action → Bool
  | .act _ => h.held
  | .drop => false

/-- What happens when an action takes place. -/
def step (h : Handle) (a : Action) : Handle × Service.Effect :=
  match h.request? a with
  | some request =>
    let (service, effect) := h.service.step request
    ({ service, held := h.kept a }, effect)
  | none => (h, {})

end Handle

end MetricWatch
