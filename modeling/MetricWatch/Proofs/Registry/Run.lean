import Mathlib.Data.List.Induction
import Mathlib.Data.List.Nodup
import MetricWatch.Registry.Hub

/-!
Histories of a registry and its channels. Subscribers are numbered in the order in which they subscribe
and no number is used again, so that an action calls each of them once at most.
-/

namespace MetricWatch

namespace Registry

/-- Whether an action adds a subscriber. -/
def Action.opens : Action → Bool
  | .subscribe => true
  | _ => false

def Action.ends (s : Subscription) : Action → Bool
  | .unsubscribe t => t = s
  | _ => false

/-- Whether an action is about labels, and not about who is subscribed. -/
def Action.writes : Action → Bool
  | .subscribe => false
  | .unsubscribe _ => false
  | _ => true

def Action.removes (label : String) : Action → Bool
  | .remove other => other = label
  | _ => false

/-- What an action has all subscribers told, if anything. -/
def event? (r : Registry) : Action → Option Event
  | .update x => if r.accepts x then some (.sample x) else none
  | .warn w => some (.degraded w)
  | .recover label => some (.recovered label)
  | _ => none

/-- The numbers of the subscribers ascend and were all given out before. -/
structure Ordered (r : Registry) : Prop where
  ascending : r.subscribers.Pairwise (·.number < ·.number)
  below : ∀ s ∈ r.subscribers, s.number < r.issued

theorem step_update (r : Registry) (x : Sample) :
    r.step (.update x) =
      if r.accepts x then ⟨r.record x, .flag true, r.broadcast (.sample x)⟩
      else ⟨r, .flag false, []⟩ := by
  rw [step, update?]
  cases r.accepts x <;> rfl

theorem subscribers_step (r : Registry) (a : Action) :
    (r.step a).registry.subscribers =
      (r.subscribers ++ if a.opens then [r.subscribe.1] else []).filter (!a.ends ·) := by
  cases a with
  | update x =>
      rw [step_update]
      split <;> simp [record, Action.opens, Action.ends]
  | unsubscribe s => simp [step, unsubscribe, Action.opens, Action.ends, eq_comm]
  | _ => simp [step, remove, subscribe, Action.opens, Action.ends]

theorem issued_step (r : Registry) (a : Action) :
    (r.step a).registry.issued = r.issued + a.opens.toNat := by
  cases a with
  | update x =>
      rw [step_update]
      split <;> rfl
  | _ => rfl

theorem Ordered.nodup {r : Registry} (h : r.Ordered) : r.subscribers.Nodup :=
  h.ascending.imp fun hlt heq => Nat.ne_of_lt hlt (congrArg _ heq)

theorem Ordered.not_mem {r : Registry} (h : r.Ordered) {s : Subscription}
    (hs : r.issued ≤ s.number) : s ∉ r.subscribers := by
  intro hmem
  exact Nat.not_lt.2 hs (h.below s hmem)

theorem Ordered.step {r : Registry} (h : r.Ordered) (a : Action) :
    (r.step a).registry.Ordered := by
  constructor
  · -- The new number is above all that were given out before.
    rw [subscribers_step]
    apply List.Pairwise.filter
    rw [List.pairwise_append]
    refine ⟨h.ascending, ?_, ?_⟩
    · cases a.opens <;> simp
    · intro s hs t ht
      cases hopens : a.opens with
      | false => simp [hopens] at ht
      | true =>
          obtain rfl : t = r.subscribe.1 := by simpa [hopens] using ht
          exact h.below s hs
  · intro s hs
    rw [subscribers_step] at hs
    rw [issued_step]
    rcases List.mem_append.1 (List.mem_filter.1 hs).1 with hs | hs
    · exact Nat.lt_add_right _ (h.below s hs)
    · cases hopens : a.opens with
      | false => simp [hopens] at hs
      | true =>
          obtain rfl : s = r.subscribe.1 := by simpa [hopens] using hs
          exact Nat.lt_succ_self _

/-- Whom an action calls, and with what: all subscribers in their order with the event of the action, or
the new subscriber alone with all that is cached. -/
theorem deliveries_step (r : Registry) (a : Action) :
    (r.step a).deliveries =
      (r.event? a).toList.flatMap r.broadcast ++
        if a.opens then [r.welcome r.subscribe.1] else [] := by
  cases a with
  | update x =>
      rw [step_update, event?]
      split <;> simp [Action.opens]
  | _ => simp [step, event?, Action.opens, subscribe]

theorem filter_broadcast {r : Registry} (hr : r.Ordered) (e : Event) (s : Subscription) :
    ((r.broadcast e).filter (·.subscription = s)).map (·.event) =
      if s ∈ r.subscribers then [e] else [] := by
  have hfilter : r.subscribers.filter (· = s) =
      List.replicate (if s ∈ r.subscribers then 1 else 0) s := by
    rw [List.filter_eq, hr.nodup.count]
  rw [broadcast, List.filter_map, List.map_map]
  change (r.subscribers.filter (· = s)).map _ = _
  rw [hfilter]
  split <;> rfl

end Registry

namespace Hub

/-- What an action asks of the registry, if anything. -/
def Action.asks : Action → Option Registry.Action
  | .registry a => some a
  | .subscribeChannel => some .subscribe
  | .drain _ => none
  | .dropReceiver _ => none

def Action.opens (a : Action) : Bool := a.asks.any (·.opens)

def Action.ends (s : Subscription) (a : Action) : Bool := a.asks.any (·.ends s)

def Action.writes (a : Action) : Bool := a.asks.any (·.writes)

def Action.removes (label : String) (a : Action) : Bool := a.asks.any (·.removes label)

def event? (h : Hub) (a : Action) : Option Event := a.asks.bind h.registry.event?

/-- The calls that an action makes, in order. A channel is called like any other subscriber. -/
def calls (h : Hub) (a : Action) : List Delivery :=
  (a.asks.map fun r => (h.registry.step r).deliveries).getD []

/-- What an action tells one subscriber. -/
def heard (h : Hub) (s : Subscription) (a : Action) : List Event :=
  ((h.calls a).filter (·.subscription = s)).map (·.event)

theorem opens_iff {a : Action} : a.opens = true ↔ a.asks = some .subscribe := by
  rw [Action.opens, Option.any_eq_true]
  constructor
  · rintro ⟨r, hr, hopens⟩
    cases r with
    | subscribe => exact hr
    | _ => cases hopens
  · intro ha
    exact ⟨.subscribe, ha, rfl⟩

theorem removes_iff {label : String} {a : Action} :
    a.removes label = true ↔ a = .registry (.remove label) := by
  constructor
  · intro h
    cases a with
    | registry r =>
        cases r with
        | remove other => rw [show other = label from of_decide_eq_true h]
        | _ => cases h
    | _ => cases h
  · rintro rfl
    exact decide_eq_true rfl

theorem registry_step (h : Hub) (a : Action) :
    (h.step a).hub.registry =
      (a.asks.map fun r => (h.registry.step r).registry).getD h.registry := by
  cases a <;> rfl

theorem issued_step (h : Hub) (a : Action) :
    (h.step a).hub.registry.issued = h.registry.issued + a.opens.toNat := by
  rw [registry_step, Action.opens]
  cases a.asks with
  | none => rfl
  | some r => exact h.registry.issued_step r

theorem subscribers_step (h : Hub) (a : Action) :
    (h.step a).hub.registry.subscribers =
      (h.registry.subscribers ++ if a.opens then [h.registry.subscribe.1] else []).filter
        (!a.ends ·) := by
  rw [registry_step, Action.opens]
  unfold Action.ends
  cases a.asks with
  | none => simp
  | some r => exact h.registry.subscribers_step r

theorem mem_subscribers_step {h : Hub} {a : Action} {s : Subscription} :
    s ∈ (h.step a).hub.registry.subscribers ↔
      (s ∈ h.registry.subscribers ∨ a.opens = true ∧ h.registry.subscribe.1 = s) ∧
        a.ends s = false := by
  rw [subscribers_step, List.mem_filter, List.mem_append, Bool.not_eq_true']
  cases a.opens with
  | false => simp
  | true => simp [eq_comm (a := s)]

theorem ordered_step {h : Hub} (hr : h.registry.Ordered) (a : Action) :
    (h.step a).hub.registry.Ordered := by
  rw [registry_step]
  cases a.asks with
  | none => exact hr
  | some r => exact hr.step r

theorem calls_eq (h : Hub) (a : Action) :
    h.calls a = (h.event? a).toList.flatMap h.registry.broadcast ++
      if a.opens then [h.registry.welcome h.registry.subscribe.1] else [] := by
  rw [calls, event?, Action.opens]
  cases a.asks with
  | none => rfl
  | some r => exact h.registry.deliveries_step r

theorem event?_eq_none_of_opens {h : Hub} {a : Action} (ha : a.opens = true) :
    h.event? a = none := by
  rw [event?, opens_iff.1 ha]
  rfl

theorem answer_update (h : Hub) (x : Sample) :
    (h.step (.registry (.update x))).answer = .registry (.flag (h.registry.accepts x)) := by
  rw [step, forward, Registry.step_update]
  cases h.registry.accepts x <;> rfl

theorem accepts_of_answer {h : Hub} {x : Sample} {b : Bool}
    (hx : (h.step (.registry (.update x))).answer = .registry (.flag b)) :
    h.registry.accepts x = b := by
  rw [answer_update] at hx
  simpa using hx

theorem calls_of_refused {h : Hub} {x : Sample} (hx : h.registry.accepts x = false) :
    h.calls (.registry (.update x)) = [] := by
  rw [calls, Action.asks, Option.map_some, Option.getD_some, Registry.step_update, hx]
  rfl

theorem heard_eq {h : Hub} (hr : h.registry.Ordered) (s : Subscription) (a : Action) :
    h.heard s a = (if s ∈ h.registry.subscribers then (h.event? a).toList else []) ++
      if a.opens = true ∧ h.registry.subscribe.1 = s then [.snapshot h.registry.latest] else [] := by
  rw [heard, calls_eq, List.filter_append, List.map_append]
  congr 1
  · cases h.event? a with
    | none => simp
    | some e => simpa using Registry.filter_broadcast hr e s
  · cases a.opens with
    | false => rfl
    | true => by_cases hs : h.registry.subscribe.1 = s <;> simp [hs, Registry.welcome]

def run (h : Hub) (as : List Action) : Hub := as.foldl (fun h a => (h.step a).hub) h

/-- An action that takes place, and the hub that it finds. -/
structure Moment where
  before : Hub
  action : Action

def moments (h : Hub) : List Action → List Moment
  | [] => []
  | a :: as => ⟨h, a⟩ :: (h.step a).hub.moments as

theorem run_append (h : Hub) (as bs : List Action) : h.run (as ++ bs) = (h.run as).run bs :=
  List.foldl_append

theorem run_concat (h : Hub) (as : List Action) (a : Action) :
    h.run (as ++ [a]) = ((h.run as).step a).hub :=
  run_append h as [a]

theorem moments_concat (h : Hub) (as : List Action) (a : Action) :
    h.moments (as ++ [a]) = h.moments as ++ [⟨h.run as, a⟩] := by
  induction as generalizing h with
  | nil => rfl
  | cons b as ih =>
      rw [List.cons_append, moments, ih, moments, List.cons_append]
      rfl

/-- What the actions of a history give, one after the other. -/
def gathered (f : Hub → Action → List Event) (as : List Action) : List Event :=
  (moments {} as).flatMap fun m => f m.before m.action

theorem gathered_concat (f : Hub → Action → List Event) (as : List Action) (a : Action) :
    gathered f (as ++ [a]) = gathered f as ++ f (run {} as) a := by
  rw [gathered, moments_concat, List.flatMap_append, List.flatMap_singleton]
  rfl

theorem ordered_run (as : List Action) : (run {} as).registry.Ordered := by
  induction as using List.reverseRecOn with
  | nil => exact ⟨List.Pairwise.nil, nofun⟩
  | append_singleton as a ih =>
      rw [run_concat]
      exact ordered_step ih a

end Hub

end MetricWatch
