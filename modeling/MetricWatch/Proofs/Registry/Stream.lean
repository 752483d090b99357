import MetricWatch.Proofs.Registry.Told

/-!
How what a subscriber is told reaches it. A subscriber without a channel is called at once; a channel
that is held keeps what it is told until it is drained.
-/

namespace MetricWatch

namespace Channel

theorem foldl_take (c : Channel) (ds : List Delivery) :
    ds.foldl take c =
      if c.held then { c with
        queue := c.queue ++ (ds.filter (·.subscription = c.subscription)).map (·.event) }
      else c := by
  induction ds generalizing c with
  | nil => simp
  | cons d ds ih =>
      rw [List.foldl_cons, ih, take]
      cases hheld : c.held with
      | false => simp [hheld]
      | true => by_cases hd : d.subscription = c.subscription <;> simp [hheld, hd]

end Channel

namespace Hub

/-- What an action makes of a channel. -/
def treat (h : Hub) (a : Action) (c : Channel) : Channel :=
  match a with
  | .drain s => if c.subscription = s then c.drained else c
  | .dropReceiver s => if c.subscription = s then c.dropped else c
  | _ => (h.calls a).foldl Channel.take c

def added (h : Hub) : Action → List Channel
  | .subscribeChannel => [{ subscription := h.registry.subscribe.1 }]
  | _ => []

theorem channels_step (h : Hub) (a : Action) :
    (h.step a).hub.channels = (h.channels ++ h.added a).map (h.treat a) := by
  have hnone (b : Action) :
      h.channels.map (h.treat b) = (h.channels ++ []).map (h.treat b) := by
    rw [List.append_nil]
  cases a with
  | registry r => exact hnone (.registry r)
  | subscribeChannel => rfl
  | drain s => exact hnone (.drain s)
  | dropReceiver s => exact hnone (.dropReceiver s)

theorem subscription_treat (h : Hub) (a : Action) (c : Channel) :
    (h.treat a c).subscription = c.subscription := by
  unfold treat
  split
  · split <;> rfl
  · split <;> rfl
  · rw [Channel.foldl_take]
    split <;> rfl

theorem channel?_step (h : Hub) (a : Action) (s : Subscription) :
    (h.step a).hub.channel? s =
      ((h.channel? s).or ((h.added a).find? (·.subscription = s))).map (h.treat a) := by
  rw [channel?, channels_step, List.find?_map, channel?, ← List.find?_append]
  congr 2
  funext c
  rw [Function.comp_apply, subscription_treat]

theorem subscription_of_channel? {h : Hub} {s : Subscription} {c : Channel}
    (hc : h.channel? s = some c) : c.subscription = s := by
  have hfound := List.find?_some hc
  exact of_decide_eq_true hfound

theorem channel?_step_eq_none_iff {h : Hub} {a : Action} {s : Subscription} :
    (h.step a).hub.channel? s = none ↔
      h.channel? s = none ∧ ¬ (a = .subscribeChannel ∧ h.registry.subscribe.1 = s) := by
  rw [channel?_step, Option.map_eq_none_iff, Option.or_eq_none_iff]
  apply and_congr_right
  intro _
  cases a with
  | _ => simp [added]

theorem channel?_eq_none_of_issued_le {as : List Action} {s : Subscription}
    (hs : (run {} as).registry.issued ≤ s.number) : (run {} as).channel? s = none := by
  induction as using List.reverseRecOn with
  | nil => rfl
  | append_singleton as a ih =>
      rw [run_concat, issued_step] at hs
      rw [run_concat, channel?_step_eq_none_iff]
      refine ⟨ih (Nat.le_of_add_right_le hs), ?_⟩
      rintro ⟨rfl, rfl⟩
      exact Nat.lt_irrefl _ hs

theorem heard_eq_nil_of_asks {h : Hub} {a : Action} (ha : a.asks = none) (s : Subscription) :
    h.heard s a = [] := by
  rw [heard, calls, ha]
  rfl

/-- What an action makes subscribers without a channel hear at once. -/
def hears (h : Hub) (s : Subscription) (a : Action) : List Event :=
  ((h.step a).deliveries.filter (·.subscription = s)).map (·.event)

def Answer.events : Answer → List Event
  | .drained events _ => events
  | _ => []

/-- What an action takes out of a subscription's channel. -/
def takes (h : Hub) (s : Subscription) : Action → List Event
  | .drain t => if t = s then (h.step (.drain t)).answer.events else []
  | _ => []

theorem hears_eq_heard {h : Hub} {s : Subscription} {a : Action}
    (hs : (h.step a).hub.channel? s = none) : h.hears s a = h.heard s a := by
  obtain ⟨hchannel, hadded⟩ := channel?_step_eq_none_iff.1 hs
  have hdirect (ds : List Delivery) :
      (h.direct ds).filter (·.subscription = s) = ds.filter (·.subscription = s) := by
    rw [direct, List.filter_filter]
    apply List.filter_congr
    intro d _
    by_cases hd : d.subscription = s
    · rw [hd, hchannel]
      simp
    · simp [hd]
  cases a with
  | registry r => exact congrArg _ (hdirect _)
  | subscribeChannel =>
      have hne : h.registry.subscribe.1 ≠ s := fun hsame => hadded ⟨rfl, hsame⟩
      rw [heard, calls_eq]
      simp [hears, step, subscribeChannel, event?, Action.asks, Registry.event?, Action.opens,
        Registry.Action.opens, Registry.welcome, hne]
  | _ => rfl

theorem queue_of_forwarded {h : Hub} {c : Channel} {a : Action} (hheld : c.held = true)
    (htakes : h.takes c.subscription a = [])
    (htreat : h.treat a c = (h.calls a).foldl Channel.take c) :
    (h.treat a c).held = true ∧
      h.takes c.subscription a ++ (h.treat a c).queue =
        c.queue ++ h.heard c.subscription a := by
  rw [htakes, htreat, Channel.foldl_take, if_pos hheld]
  exact ⟨hheld, rfl⟩

theorem queue_treat {h : Hub} {c : Channel} {a : Action} (hheld : c.held = true)
    (hc : h.channel? c.subscription = some c) (ha : a ≠ .dropReceiver c.subscription) :
    (h.treat a c).held = true ∧
      h.takes c.subscription a ++ (h.treat a c).queue =
        c.queue ++ h.heard c.subscription a := by
  cases a with
  | registry r => exact queue_of_forwarded hheld rfl rfl
  | subscribeChannel => exact queue_of_forwarded hheld rfl rfl
  | drain t =>
      rw [heard_eq_nil_of_asks rfl, List.append_nil, takes, treat]
      by_cases ht : c.subscription = t
      · subst ht
        simp [hheld, step, hc, Answer.events, Channel.drained]
      · rw [if_neg ht, if_neg (Ne.symm ht)]
        exact ⟨hheld, rfl⟩
  | dropReceiver t =>
      have ht : c.subscription ≠ t := fun h => ha (congrArg _ h.symm)
      rw [heard_eq_nil_of_asks rfl, List.append_nil, takes, treat, if_neg ht]
      · exact ⟨hheld, rfl⟩
      · intro u hu
        cases hu

def heardAtOnce (s : Subscription) (as : List Action) : List Event :=
  gathered (fun h a => h.hears s a) as

def drained (s : Subscription) (as : List Action) : List Event :=
  gathered (fun h a => h.takes s a) as

theorem heardAtOnce_eq_told {s : Subscription} {as : List Action}
    (hs : (run {} as).channel? s = none) : heardAtOnce s as = told s as := by
  induction as using List.reverseRecOn with
  | nil => rfl
  | append_singleton as a ih =>
      rw [run_concat] at hs
      rw [heardAtOnce, gathered_concat, ← heardAtOnce, ih (channel?_step_eq_none_iff.1 hs).1,
        told_concat, hears_eq_heard hs]

theorem channel?_eq_none_of_issued {before : List Action} {s : Subscription}
    (h : IssuedAt before (.registry .subscribe) s) (during : List Action) :
    (run {} (before ++ .registry .subscribe :: during)).channel? s = none := by
  induction during using List.reverseRecOn with
  | nil =>
      obtain ⟨-, rfl⟩ := issuedAt_iff.1 h
      rw [run_concat, channel?_step, channel?_eq_none_of_issued_le (Nat.le_refl _)]
      rfl
  | append_singleton during a ih =>
      rw [← History.cut_append, run_concat, channel?_step_eq_none_iff]
      refine ⟨ih, ?_⟩
      rintro ⟨rfl, hsame⟩
      exact not_issued_again h during .subscribeChannel ⟨rfl, hsame⟩

theorem drained_of_not_issued {s : Subscription} {as : List Action}
    (hs : (run {} as).registry.issued ≤ s.number) : drained s as = [] := by
  induction as using List.reverseRecOn with
  | nil => rfl
  | append_singleton as a ih =>
      rw [run_concat, issued_step] at hs
      have hle := Nat.le_of_add_right_le hs
      rw [drained, gathered_concat, ← drained, ih hle, List.nil_append]
      cases a with
      | drain t =>
          rw [takes]
          split
          · rename_i ht
            subst ht
            simp [step, channel?_eq_none_of_issued_le hle, Answer.events]
          · rfl
      | _ => rfl

/-- What was drained from a channel that is held, and what waits in it, is what it was told. -/
theorem drained_append_queue {before : List Action} {s : Subscription}
    (h : IssuedAt before .subscribeChannel s) {during : List Action}
    (hheld : .dropReceiver s ∉ during) :
    ∃ c, (run {} (before ++ .subscribeChannel :: during)).channel? s = some c ∧ c.held = true ∧
      drained s (before ++ .subscribeChannel :: during) ++ c.queue =
        told s (before ++ .subscribeChannel :: during) := by
  induction during using List.reverseRecOn with
  | nil =>
      obtain ⟨-, rfl⟩ := issuedAt_iff.1 h
      have hle := Nat.le_refl (run {} before).registry.issued
      let c : Channel := { subscription := (run {} before).registry.subscribe.1 }
      have hnew : (run {} (before ++ [.subscribeChannel])).channel? c.subscription =
          some ((run {} before).treat .subscribeChannel c) := by
        rw [run_concat, channel?_step, channel?_eq_none_of_issued_le hle, Option.none_or, added,
          List.find?_singleton, decide_eq_true rfl, if_pos rfl, Option.map_some]
      obtain ⟨hheld, hqueue⟩ :=
        queue_of_forwarded (h := run {} before) (c := c) (a := .subscribeChannel) rfl rfl rfl
      refine ⟨_, hnew, hheld, ?_⟩
      rw [drained, gathered_concat, ← drained, drained_of_not_issued hle, told_concat,
        told_of_not_issued hle]
      exact hqueue
  | append_singleton during a ih =>
      rw [List.mem_append, List.mem_singleton, not_or] at hheld
      obtain ⟨c, hc, hcheld, hall⟩ := ih hheld.1
      obtain rfl := subscription_of_channel? hc
      obtain ⟨hstill, hqueue⟩ := queue_treat hcheld hc (Ne.symm hheld.2)
      refine ⟨(run {} (before ++ .subscribeChannel :: during)).treat a c, ?_, hstill, ?_⟩
      · rw [← History.cut_append, run_concat, channel?_step, hc, Option.some_or,
          Option.map_some]
      · rw [← History.cut_append, drained, gathered_concat, ← drained,
          told_concat, ← hall, List.append_assoc, List.append_assoc]
        exact congrArg _ hqueue

/-- What holds of a subscription from the moment on at which it is given out. -/
structure Served (before : List Action) (b : Action) (during : List Action) (s : Subscription) :
    Prop where
  told_eq : told s (before ++ b :: during) =
    .snapshot (run {} before).registry.latest ::
      (run {} (before ++ [b])).broadcasts (lifetime s during)
  /-- The same is told if there is no other subscriber, and no receiver that is drained or dropped. -/
  alone : told s (before ++ b :: during) =
    .snapshot (run {} (before.filter (·.writes))).registry.latest ::
      (run {} (before.filter (·.writes))).broadcasts ((lifetime s during).filter (·.writes))
  atOnce : b = .registry .subscribe →
    heardAtOnce s (before ++ b :: during) = told s (before ++ b :: during)
  queued : b = .subscribeChannel → .dropReceiver s ∉ during →
    ∃ c, (run {} (before ++ b :: during)).channel? s = some c ∧
      drained s (before ++ b :: during) ++ c.queue = told s (before ++ b :: during)

/-- What holds of the subscribers after a history. -/
structure Roll (as : List Action) : Prop where
  numbers : (handles as).map (·.number) = List.range (handles as).length
  ordered : (run {} as).registry.subscribers.Sublist (handles as)
  mem_iff : ∀ s, s ∈ (run {} as).registry.subscribers ↔ Listening as s
  /-- An event reaches all subscribers in their order, once each. -/
  reached : ∀ a e, (run {} as).event? a = some e →
    (run {} as).calls a = (run {} as).registry.subscribers.map fun s => ⟨s, e⟩
  /-- A new subscriber is called alone. -/
  welcomed : ∀ a s, IssuedAt as a s →
    (run {} as).calls a = [⟨s, .snapshot (run {} as).registry.latest⟩]
  quiet : ∀ a, (run {} as).event? a = none → (∀ s, ¬ IssuedAt as a s) → (run {} as).calls a = []
  accepted : ∀ x, ((run {} as).step (.registry (.update x))).answer = .registry (.flag true) →
    (run {} as).event? (.registry (.update x)) = some (.sample x)
  dropped : ∀ x, ((run {} as).step (.registry (.update x))).answer = .registry (.flag false) →
    (run {} as).calls (.registry (.update x)) = []
  ended : ∀ s, ((run {} as).step (.registry (.unsubscribe s))).answer = .registry (.flag true) ↔
    Listening as s
  refused : ∀ s, ((run {} as).step (.registry (.unsubscribe s))).answer = .registry (.flag false) ↔
    ¬ Listening as s

theorem IssuedAt.served {before : List Action} {b : Action} {s : Subscription}
    (h : IssuedAt before b s) (during : List Action) : Served before b during s := by
  constructor
  · exact told_eq h during
  · have hsame : ({} : Hub).registry.SameRecords ({} : Hub).registry := ⟨rfl, rfl⟩
    obtain ⟨hbefore, -⟩ := filter_writes hsame before
    rw [told_eq h during, hbefore.latest,
      (filter_writes (h.sameRecords.trans hbefore) (lifetime s during)).2]
  · rintro rfl
    exact heardAtOnce_eq_told (channel?_eq_none_of_issued h during)
  · rintro rfl hheld
    obtain ⟨c, hc, -, hqueue⟩ := drained_append_queue h hheld
    exact ⟨c, hc, hqueue⟩

theorem answer_unsubscribe (h : Hub) (s : Subscription) :
    (h.step (.registry (.unsubscribe s))).answer =
      .registry (.flag (h.registry.subscribers.contains s)) := rfl

theorem roll (as : List Action) : Roll as := by
  constructor
  · rw [handles_eq, List.map_map, List.length_map, List.length_range]
    exact List.map_id _
  · exact subscribers_sublist_handles as
  · intro s
    exact mem_subscribers_run
  · intro a e he
    have hopens : a.opens = false := by
      rw [← Bool.not_eq_true]
      intro hopens
      rw [event?_eq_none_of_opens hopens] at he
      cases he
    rw [calls_eq, he, hopens, Option.toList_some, List.flatMap_singleton]
    exact List.append_nil _
  · intro a s ha
    obtain ⟨hopens, rfl⟩ := issuedAt_iff.1 ha
    rw [calls_eq, event?_eq_none_of_opens hopens, if_pos hopens]
    rfl
  · intro a hevent hissued
    have hopens : a.opens = false := by
      rw [← Bool.not_eq_true]
      intro hopens
      exact hissued _ (issuedAt_iff.2 ⟨hopens, rfl⟩)
    rw [calls_eq, hevent, hopens]
    rfl
  · intro x hx
    rw [event?, Action.asks, Option.bind_some, Registry.event?, if_pos (accepts_of_answer hx)]
  · intro x hx
    exact calls_of_refused (accepts_of_answer hx)
  · intro s
    rw [answer_unsubscribe, ← mem_subscribers_run]
    simp
  · intro s
    rw [answer_unsubscribe, ← mem_subscribers_run]
    simp

/-- In every history, a subscriber is told of what was cached when it subscribed, and then of all that is
broadcast until it is taken off, whoever else is subscribed. -/
theorem subscribers_served :
    (∀ before b during s, IssuedAt before b s → Served before b during s) ∧ ∀ as, Roll as :=
  ⟨fun _ _ during _ h => h.served during, roll⟩

/-- The second subscriber hears of a failed sample and not of an old one, and of nothing after it was
taken off. The first one, whose receiver was dropped, and the third one do not matter to it. -/
theorem subscribers_served_until_taken_off :
    IssuedAt [.registry (.update (.ok "L1" 5 1)), .subscribeChannel] (.registry .subscribe) ⟨1⟩ ∧
      heardAtOnce ⟨1⟩ ([.registry (.update (.ok "L1" 5 1)), .subscribeChannel] ++
          .registry .subscribe :: [.registry (.update (.ok "L1" 4 2)), .dropReceiver ⟨0⟩,
            .registry (.update (.failed "L1" 7 "timeout")), .registry .subscribe,
            .registry (.recover "L1"), .registry (.unsubscribe ⟨1⟩),
            .registry (.update (.ok "L1" 9 3))]) =
        [.snapshot (LabelMap.empty.insert "L1" (.ok "L1" 5 1)),
          .sample (.failed "L1" 7 "timeout"), .recovered "L1"] := by
  have hissued : IssuedAt [.registry (.update (.ok "L1" 5 1)), .subscribeChannel]
      (.registry .subscribe) ⟨1⟩ := rfl
  have hserved := subscribers_served.1 _ _ [.registry (.update (.ok "L1" 4 2)), .dropReceiver ⟨0⟩,
    .registry (.update (.failed "L1" 7 "timeout")), .registry .subscribe,
    .registry (.recover "L1"), .registry (.unsubscribe ⟨1⟩), .registry (.update (.ok "L1" 9 3))]
    ⟨1⟩ hissued
  refine ⟨hissued, ?_⟩
  rw [hserved.atOnce rfl, hserved.told_eq]
  rfl

end Hub

end MetricWatch
