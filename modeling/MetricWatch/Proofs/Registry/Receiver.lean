import MetricWatch.Proofs.Registry.Stream
import MetricWatch.Registry.Receiver

/-!
Histories in which receivers take what waits in whatever pieces they like. What a receiver has taken and
what still waits together are what the subscription was told, in order.
-/

namespace MetricWatch

namespace Hub

/-- The action of a move, if it is one. Taking events out of a channel asks nothing of the registry. -/
def Move.action? : Move → Option Action
  | .act a => some a
  | .receive _ _ => none

def actions (ms : List Move) : List Action := ms.filterMap Move.action?

/-- The hub after some moves. -/
def follow (h : Hub) (ms : List Move) : Hub := ms.foldl move h

/-- What the moves of a history give, one after the other. -/
def yielded (f : Hub → Move → List Event) (h : Hub) : List Move → List Event
  | [] => []
  | m :: ms => f h m ++ yielded f (h.move m) ms

/-- What a move takes out of a subscription's channel. -/
def comesOut (h : Hub) (s : Subscription) : Move → List Event
  | .act a => h.takes s a
  | .receive t limit => if t = s then (h.receive t limit).1.events else []

/-- What a move makes a subscriber without a channel hear at once. -/
def callsBack (h : Hub) (s : Subscription) : Move → List Event
  | .act a => h.hears s a
  | .receive _ _ => []

/-- What a move tells a subscriber, with a channel or without. -/
def tells (h : Hub) (s : Subscription) : Move → List Event
  | .act a => h.heard s a
  | .receive _ _ => []

/-- All that a history takes out of a subscription's channel. -/
def received (s : Subscription) (ms : List Move) : List Event :=
  yielded (fun h m => h.comesOut s m) {} ms

/-- All that a history makes a subscriber without a channel hear. -/
def calledBack (s : Subscription) (ms : List Move) : List Event :=
  yielded (fun h m => h.callsBack s m) {} ms

theorem follow_append (h : Hub) (ms ns : List Move) :
    h.follow (ms ++ ns) = (h.follow ms).follow ns :=
  List.foldl_append

theorem follow_concat (h : Hub) (ms : List Move) (m : Move) :
    h.follow (ms ++ [m]) = (h.follow ms).move m :=
  follow_append h ms [m]

theorem yielded_append (f : Hub → Move → List Event) (h : Hub) (ms ns : List Move) :
    yielded f h (ms ++ ns) = yielded f h ms ++ yielded f (h.follow ms) ns := by
  induction ms generalizing h with
  | nil => rfl
  | cons m ms ih =>
      rw [List.cons_append, yielded, ih, yielded, List.append_assoc]
      rfl

theorem yielded_concat (f : Hub → Move → List Event) (h : Hub) (ms : List Move) (m : Move) :
    yielded f h (ms ++ [m]) = yielded f h ms ++ f (h.follow ms) m := by
  rw [yielded_append, yielded, yielded, List.append_nil]

theorem actions_append (ms ns : List Move) : actions (ms ++ ns) = actions ms ++ actions ns :=
  List.filterMap_append

theorem actions_append_act (ms : List Move) (a : Action) (ns : List Move) :
    actions (ms ++ .act a :: ns) = actions ms ++ a :: actions ns :=
  actions_append ms (.act a :: ns)

theorem mem_actions {a : Action} {ms : List Move} : a ∈ actions ms ↔ .act a ∈ ms := by
  rw [actions, List.mem_filterMap]
  constructor
  · rintro ⟨m, hm, ha⟩
    cases m with
    | act b => exact Option.some.inj ha ▸ hm
    | receive => cases ha
  · intro ha
    exact ⟨.act a, ha, rfl⟩

theorem registry_move (h : Hub) (m : Move) :
    (h.move m).registry = (h.run (actions [m])).registry := by
  cases m <;> rfl

theorem registry_run_congr {h h' : Hub} (hsame : h.registry = h'.registry) (as : List Action) :
    (h.run as).registry = (h'.run as).registry := by
  induction as generalizing h h' with
  | nil => exact hsame
  | cons a as ih =>
      apply ih
      rw [registry_step, registry_step, hsame]

/-- What the registry holds depends on the actions alone. -/
theorem registry_follow (ms : List Move) :
    (follow {} ms).registry = (run {} (actions ms)).registry := by
  induction ms using List.reverseRecOn with
  | nil => rfl
  | append_singleton ms m ih =>
      rw [follow_concat, registry_move, registry_run_congr ih, actions_append, run_append]

theorem heard_congr {h h' : Hub} (hsame : h.registry = h'.registry) (s : Subscription)
    (a : Action) : h.heard s a = h'.heard s a := by
  rw [heard, calls, heard, calls, hsame]

/-- What a move makes of a channel. -/
def treatBy (h : Hub) : Move → Channel → Channel
  | .act a, c => h.treat a c
  | .receive s limit, c => if c.subscription = s then c.after limit else c

def addedBy (h : Hub) : Move → List Channel
  | .act a => h.added a
  | .receive _ _ => []

theorem subscription_treatBy (h : Hub) (m : Move) (c : Channel) :
    (h.treatBy m c).subscription = c.subscription := by
  cases m with
  | act a => exact subscription_treat h a c
  | receive s limit =>
      rw [treatBy]
      split <;> rfl

theorem channel?_move (h : Hub) (m : Move) (s : Subscription) :
    (h.move m).channel? s =
      ((h.channel? s).or ((h.addedBy m).find? (·.subscription = s))).map (h.treatBy m) := by
  cases m with
  | act a => exact channel?_step h a s
  | receive t limit =>
      rw [addedBy, List.find?_nil, Option.or_none]
      change (h.channels.map (h.treatBy (.receive t limit))).find? _ = _
      rw [List.find?_map, channel?]
      congr 2
      funext c
      rw [Function.comp_apply, subscription_treatBy]

theorem channel?_move_eq_none_iff {h : Hub} {m : Move} {s : Subscription} :
    (h.move m).channel? s = none ↔
      h.channel? s = none ∧ ¬ (m = .act .subscribeChannel ∧ h.registry.subscribe.1 = s) := by
  cases m with
  | act a =>
      rw [Move.act.injEq]
      exact channel?_step_eq_none_iff
  | receive t limit =>
      rw [channel?_move, Option.map_eq_none_iff, addedBy, List.find?_nil, Option.or_none]
      exact (and_iff_left nofun).symm

/-- Whether a subscription has a channel depends on the actions alone. -/
theorem channel?_follow_eq_none_iff {ms : List Move} {s : Subscription} :
    (follow {} ms).channel? s = none ↔ (run {} (actions ms)).channel? s = none := by
  induction ms using List.reverseRecOn with
  | nil => rfl
  | append_singleton ms m ih =>
      rw [follow_concat, channel?_move_eq_none_iff, ih, registry_follow, actions_append]
      cases m with
      | act a =>
          rw [Move.act.injEq]
          exact (channel?_step_eq_none_iff.symm.trans (by rw [← run_concat]; rfl))
      | receive t limit =>
          rw [show actions [.receive t limit] = [] from rfl, List.append_nil]
          exact and_iff_left nofun

theorem comesOut_of_no_channel {h : Hub} {s : Subscription} (hs : h.channel? s = none) (m : Move) :
    h.comesOut s m = [] := by
  cases m with
  | act a =>
      cases a with
      | drain t =>
          rw [comesOut, takes]
          split
          · rename_i ht
            subst ht
            simp [step, hs, Answer.events]
          · rfl
      | _ => rfl
  | receive t limit =>
      rw [comesOut]
      split
      · rename_i ht
        subst ht
        simp [receive, waiting, hs]
      · rfl

theorem received_of_no_channel {s : Subscription} {ms : List Move}
    (hs : (follow {} ms).channel? s = none) : received s ms = [] := by
  induction ms using List.reverseRecOn with
  | nil => rfl
  | append_singleton ms m ih =>
      rw [follow_concat, channel?_move_eq_none_iff] at hs
      rw [received, yielded_concat, ← received, ih hs.1, comesOut_of_no_channel hs.1]
      rfl

theorem told_actions_concat (s : Subscription) (ms : List Move) (m : Move) :
    told s (actions (ms ++ [m])) = told s (actions ms) ++ (follow {} ms).tells s m := by
  rw [actions_append]
  cases m with
  | act a =>
      rw [tells, heard_congr (registry_follow ms)]
      exact told_concat s _ a
  | receive t limit =>
      rw [tells, List.append_nil]
      exact congrArg (told s) (List.append_nil _)

theorem calledBack_eq_told {s : Subscription} {ms : List Move}
    (hs : (follow {} ms).channel? s = none) : calledBack s ms = told s (actions ms) := by
  induction ms using List.reverseRecOn with
  | nil => rfl
  | append_singleton ms m ih =>
      rw [follow_concat] at hs
      rw [calledBack, yielded_concat, ← calledBack, ih (channel?_move_eq_none_iff.1 hs).1,
        told_actions_concat]
      cases m with
      | act a => exact congrArg _ (hears_eq_heard hs)
      | receive => rfl

/-- What is told is queued behind what waits, and what is taken comes from the front. -/
theorem queue_treatBy {h : Hub} {c : Channel} {m : Move} (hheld : c.held = true)
    (hc : h.channel? c.subscription = some c) (hm : m ≠ .act (.dropReceiver c.subscription)) :
    (h.treatBy m c).held = true ∧
      h.comesOut c.subscription m ++ (h.treatBy m c).queue =
        c.queue ++ h.tells c.subscription m := by
  cases m with
  | act a => exact queue_treat hheld hc fun ha => hm (congrArg _ ha)
  | receive t limit =>
      rw [comesOut, treatBy, tells, List.append_nil]
      by_cases ht : c.subscription = t
      · subst ht
        simp [receive, waiting, hc, Channel.after, hheld]
      · rw [if_neg ht, if_neg (Ne.symm ht)]
        exact ⟨hheld, rfl⟩

section channelled

variable {before : List Move} {s : Subscription}
  (hs : (follow {} before).registry.subscribe.1 = s)

include hs

theorem channel?_eq_none_before : (follow {} before).channel? s = none := by
  subst hs
  rw [channel?_follow_eq_none_iff, registry_follow]
  exact channel?_eq_none_of_issued_le (Nat.le_refl _)

theorem issuedAt_actions {a : Action} (ha : a.opens = true) : IssuedAt (actions before) a s := by
  rw [registry_follow] at hs
  exact issuedAt_iff.2 ⟨ha, hs⟩

/-- What was taken out of a channel that is held, and what waits in it, is what it was told. -/
theorem received_append_queue {during : List Move} (hheld : .act (.dropReceiver s) ∉ during) :
    ∃ c, (follow {} (before ++ .act .subscribeChannel :: during)).channel? s = some c ∧
      c.held = true ∧
      received s (before ++ .act .subscribeChannel :: during) ++ c.queue =
        told s (actions (before ++ .act .subscribeChannel :: during)) := by
  have hnone := channel?_eq_none_before hs
  induction during using List.reverseRecOn with
  | nil =>
      let c : Channel := { subscription := s }
      have hnew : (follow {} (before ++ [.act .subscribeChannel])).channel? s =
          some ((follow {} before).treatBy (.act .subscribeChannel) c) := by
        rw [follow_concat, channel?_move, hnone, Option.none_or, addedBy, added, hs,
          List.find?_singleton, decide_eq_true rfl, if_pos rfl, Option.map_some]
      obtain ⟨hcheld, hqueue⟩ := queue_of_forwarded (h := follow {} before) (c := c)
        (a := .subscribeChannel) rfl rfl rfl
      refine ⟨_, hnew, hcheld, ?_⟩
      have htold : told s (actions before) = [] := by
        apply told_of_not_issued
        rw [← registry_follow, ← hs]
        exact Nat.le_refl _
      rw [received, yielded_concat, ← received, received_of_no_channel hnone, told_actions_concat,
        htold]
      exact hqueue
  | append_singleton during m ih =>
      rw [List.mem_append, List.mem_singleton, not_or] at hheld
      obtain ⟨c, hc, hcheld, hall⟩ := ih hheld.1
      obtain rfl := subscription_of_channel? hc
      obtain ⟨hstill, hqueue⟩ := queue_treatBy hcheld hc (Ne.symm hheld.2)
      rw [← History.cut_append]
      refine ⟨_, ?_, hstill, ?_⟩
      · rw [follow_concat, channel?_move, hc, Option.some_or, Option.map_some]
      · rw [received, yielded_concat, ← received, told_actions_concat, ← hall, List.append_assoc,
          List.append_assoc]
        exact congrArg _ hqueue

end channelled

/-- Draining is taking all that waits. -/
theorem receive_eq_drain {h : Hub} {s : Subscription} {limit : Nat}
    (hlimit : ∀ c ∈ h.channels, c.subscription = s → c.queue.length ≤ limit) :
    h.move (.receive s limit) = h.move (.act (.drain s)) := by
  have hmap : h.channels.map (fun c => if c.subscription = s then c.after limit else c) =
      h.channels.map fun c => if c.subscription = s then c.drained else c := by
    apply List.map_congr_left
    intro c hc
    split
    · rename_i hs
      rw [Channel.after, List.drop_eq_nil_of_le (hlimit c hc hs), Channel.drained]
    · rfl
  simp only [move, receive, step, setChannel, hmap]

end Hub

end MetricWatch
