import MetricWatch.Registry.Hub

/-!
Taking events out of a channel in pieces: whoever holds the receiver may take some of what waits and
leave the rest for later. Draining is taking all at once.
-/

namespace MetricWatch

/-- What came out of a channel. -/
structure Receipt where
  events : List Event
  /-- Why no more came, if fewer events waited than were asked for. -/
  ending : Option Hub.Ending
  deriving DecidableEq

/-- The channel without the oldest `count` of the events that wait. -/
def Channel.after (c : Channel) (count : Nat) : Channel := { c with queue := c.queue.drop count }

namespace Hub

/-- What waits in a subscription's channel. -/
def waiting (h : Hub) (s : Subscription) : List Event := ((h.channel? s).map (·.queue)).getD []

/-- Takes events out of a subscription's channel, oldest first and no more than `limit`. -/
def receive (h : Hub) (s : Subscription) (limit : Nat) : Receipt × Hub :=
  ({ events := (h.waiting s).take limit
     ending := if (h.waiting s).length < limit then some (h.ending s) else none },
    h.setChannel s (·.after limit))

/-- Something that happens to a hub: an action, or the receiver of a channel takes some events. -/
inductive Move where
  | act (a : Action)
  | receive (s : Subscription) (limit : Nat)

/-- The hub after a move. -/
def move (h : Hub) : Move → Hub
  | .act a => (h.step a).hub
  | .receive s limit => (h.receive s limit).2

end Hub

end MetricWatch
