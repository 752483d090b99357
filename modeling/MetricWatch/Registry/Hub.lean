import MetricWatch.Registry.Basic

/-!
A registry of which some subscriptions are channels: what such a subscription is told waits in a
queue until it is drained. The other subscriptions are called at once.
-/

namespace MetricWatch

/-- The receiving end of a subscription. -/
structure Channel where
  subscription : Subscription
  /-- What has been told and not yet drained, oldest first. -/
  queue : List Event := []
  /-- Whether the receiver is still held. One that was dropped takes nothing more in. -/
  held : Bool := true
  deriving DecidableEq

namespace Channel

/-- Takes in an event, if it is for this channel. -/
def take (c : Channel) (d : Delivery) : Channel :=
  if c.held ∧ d.subscription = c.subscription then { c with queue := c.queue ++ [d.event] } else c

/-- The receiver without what waited. -/
def drained (c : Channel) : Channel := { c with queue := [] }

/-- The channel after its receiver was dropped, and with it all that waited. -/
def dropped (c : Channel) : Channel := { c with queue := [], held := false }

end Channel

/-- A registry with its channels. -/
structure Hub where
  registry : Registry := {}
  channels : List Channel := []
  deriving DecidableEq

namespace Hub

/-- The channel of a subscription, if it is one. -/
def channel? (h : Hub) (s : Subscription) : Option Channel :=
  h.channels.find? (·.subscription = s)

/-- Changes the channel of a subscription. -/
def setChannel (h : Hub) (s : Subscription) (f : Channel → Channel) : Hub :=
  { h with channels := h.channels.map fun c => if c.subscription = s then f c else c }

/-- Queues what is for a channel. -/
def post (h : Hub) (deliveries : List Delivery) : Hub :=
  { h with channels := h.channels.map fun c => deliveries.foldl Channel.take c }

/-- What is not for a channel. -/
def direct (h : Hub) (deliveries : List Delivery) : List Delivery :=
  deliveries.filter fun d => (h.channel? d.subscription).isNone

/-- Why a drained channel has no more. -/
inductive Ending where
  /-- More may come. -/
  | empty
  /-- The subscription has ended, so nothing more comes. -/
  | disconnected
  deriving DecidableEq

/-- An ending's name. -/
def Ending.text : Ending → String
  | empty => "Empty"
  | disconnected => "Disconnected"

/-- Something that is asked of a hub. -/
inductive Action where
  | registry (a : Registry.Action)
  | subscribeChannel
  | drain (s : Subscription)
  | dropReceiver (s : Subscription)

/-- What a hub answers. -/
inductive Answer where
  | registry (a : Registry.Answer)
  | drained (events : List Event) (ending : Ending)
  /-- Whether there was a receiver to drop. -/
  | dropped (held : Bool)
  deriving DecidableEq

/-- What an action leads to. The deliveries are those to subscribers that are called at once. -/
structure Outcome where
  hub : Hub
  answer : Answer
  deliveries : List Delivery := []

/-- Carries out a registry's action and hands its deliveries on. -/
def forward (h : Hub) (a : Registry.Action) : Outcome :=
  let o := h.registry.step a
  ⟨{ h with registry := o.registry }.post o.deliveries, .registry o.answer, h.direct o.deliveries⟩

/-- Subscribes with a channel, which then holds what a new subscriber is told. -/
def subscribeChannel (h : Hub) : Outcome :=
  let o := h.registry.step .subscribe
  let channel : Channel := { subscription := h.registry.subscribe.1 }
  ⟨{ registry := o.registry, channels := h.channels ++ [channel] : Hub }.post o.deliveries,
    .registry o.answer, []⟩

/-- Why a channel of a subscription has no more. -/
def ending (h : Hub) (s : Subscription) : Ending :=
  if h.registry.listening s then .empty else .disconnected

/-- Carries out an action. -/
def step (h : Hub) : Action → Outcome
  | .registry a => h.forward a
  | .subscribeChannel => h.subscribeChannel
  | .drain s =>
    ⟨h.setChannel s Channel.drained,
      .drained (((h.channel? s).map (·.queue)).getD []) (h.ending s), []⟩
  | .dropReceiver s =>
    ⟨h.setChannel s Channel.dropped, .dropped (((h.channel? s).map (·.held)).getD false), []⟩

end Hub

end MetricWatch
