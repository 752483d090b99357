import MetricWatch.Proofs.Registry.Receiver

/-!
A subscription with a channel beside one that is called at once in its place. The receiver gets what the
callback hears, and to everyone else the two are the same. So they are, too, when the receiver is dropped.
-/

namespace MetricWatch

namespace Hub

/-- Whether two hubs are alike to all subscribers but one. -/
structure AlikeBut (s : Subscription) (h h' : Hub) : Prop where
  registry : h.registry = h'.registry
  channel?_eq : ∀ t ≠ s, h.channel? t = h'.channel? t

theorem treat_congr {h h' : Hub} (hsame : h.registry = h'.registry) (a : Action) :
    h.treat a = h'.treat a := by
  funext c
  have hcalls : h.calls a = h'.calls a := by rw [calls, calls, hsame]
  unfold treat
  rw [hcalls]

theorem hears_eq (h : Hub) (s : Subscription) (a : Action) :
    h.hears s a = if (h.step a).hub.channel? s = none then h.heard s a else [] := by
  split
  · rename_i hs
    exact hears_eq_heard hs
  · rename_i hs
    rw [channel?_step_eq_none_iff] at hs
    cases a with
    | registry r =>
        have hsome : (h.channel? s).isNone = false := by
          rw [← Bool.not_eq_true, Option.isNone_iff_eq_none]
          exact fun hnone => hs ⟨hnone, nofun⟩
        have hnone : (h.direct (h.registry.step r).deliveries).filter (·.subscription = s) = [] := by
          rw [direct, List.filter_filter]
          apply List.filter_eq_nil_iff.2
          intro d _ hd
          rw [Bool.and_eq_true, decide_eq_true_iff] at hd
          rw [hd.1, hsome] at hd
          exact Bool.false_ne_true hd.2
        exact congrArg _ hnone
    | _ => rfl

namespace AlikeBut

variable {s : Subscription} {h h' : Hub}

theorem move (hsame : AlikeBut s h h') (m : Move) : AlikeBut s (h.move m) (h'.move m) where
  registry := by
    rw [registry_move, registry_move]
    exact registry_run_congr hsame.registry _
  channel?_eq t ht := by
    have hadded : h.addedBy m = h'.addedBy m := by
      cases m with
      | act a => cases a <;> simp [addedBy, added, hsame.registry]
      | receive => rfl
    have htreat : h.treatBy m = h'.treatBy m := by
      cases m with
      | act a => exact treat_congr hsame.registry a
      | receive => rfl
    rw [channel?_move, channel?_move, hsame.channel?_eq t ht, hadded, htreat]

theorem follow (hsame : AlikeBut s h h') (ms : List Move) :
    AlikeBut s (h.follow ms) (h'.follow ms) := by
  induction ms generalizing h h' with
  | nil => exact hsame
  | cons m ms ih => exact ih (hsame.move m)

theorem comesOut_eq (hsame : AlikeBut s h h') {t : Subscription} (ht : t ≠ s) (m : Move) :
    h.comesOut t m = h'.comesOut t m := by
  have hchannel := hsame.channel?_eq t ht
  cases m with
  | act a =>
      cases a with
      | drain u =>
          rw [comesOut, comesOut, takes, takes]
          split
          · rename_i hu
            subst hu
            simp [step, hchannel, Answer.events]
          · rfl
      | _ => rfl
  | receive u limit =>
      rw [comesOut, comesOut]
      split
      · rename_i hu
        subst hu
        simp [receive, waiting, hchannel]
      · rfl

theorem callsBack_eq (hsame : AlikeBut s h h') {t : Subscription} (ht : t ≠ s) (m : Move) :
    h.callsBack t m = h'.callsBack t m := by
  cases m with
  | act a =>
      have hchannel := (hsame.move (.act a)).channel?_eq t ht
      rw [callsBack, callsBack, hears_eq, hears_eq, heard_congr hsame.registry,
        show (h.step a).hub.channel? t = (h'.step a).hub.channel? t from hchannel]
  | receive => rfl

theorem yielded_eq {f : Hub → Move → List Event}
    (hf : ∀ {h h'}, AlikeBut s h h' → ∀ m, f h m = f h' m) (hsame : AlikeBut s h h')
    (ms : List Move) : yielded f h ms = yielded f h' ms := by
  induction ms generalizing h h' with
  | nil => rfl
  | cons m ms ih => rw [yielded, yielded, hf hsame m, ih (hsame.move m)]

end AlikeBut

/-- Whether two histories are alike to all subscribers but one: they leave the same registry, and each of
the others hears the same, at once or out of its channel. -/
structure SameBut (s : Subscription) (ms ns : List Move) : Prop where
  registry : (follow {} ms).registry = (follow {} ns).registry
  received_eq : ∀ t ≠ s, received t ms = received t ns
  calledBack_eq : ∀ t ≠ s, calledBack t ms = calledBack t ns

/-- Histories that differ in a part that is alike to the others are alike to them. -/
theorem sameBut_of_alike {s : Subscription} {before : List Move} (middle middle' : List Move)
    {after : List Move}
    (hsame : AlikeBut s ((follow {} before).follow middle) ((follow {} before).follow middle'))
    (htaken : ∀ t ≠ s, yielded (fun h m => h.comesOut t m) (follow {} before) middle =
      yielded (fun h m => h.comesOut t m) (follow {} before) middle')
    (hcalled : ∀ t ≠ s, yielded (fun h m => h.callsBack t m) (follow {} before) middle =
      yielded (fun h m => h.callsBack t m) (follow {} before) middle') :
    SameBut s (before ++ (middle ++ after)) (before ++ (middle' ++ after)) where
  registry := by
    simp only [follow_append]
    exact (hsame.follow after).registry
  received_eq t ht := by
    simp only [received, yielded_append, htaken t ht]
    rw [AlikeBut.yielded_eq (fun h m => h.comesOut_eq ht m) hsame]
  calledBack_eq t ht := by
    simp only [calledBack, yielded_append, hcalled t ht]
    rw [AlikeBut.yielded_eq (fun h m => h.callsBack_eq ht m) hsame]

/-- To the others a new subscriber is the same with a channel and without. -/
theorem sameBut_subscribe (before during : List Move) :
    SameBut (follow {} before).registry.subscribe.1 (before ++ .act .subscribeChannel :: during)
      (before ++ .act (.registry .subscribe) :: during) := by
  have hchannel : ∀ t ≠ (follow {} before).registry.subscribe.1,
      ((follow {} before).move (.act .subscribeChannel)).channel? t =
        ((follow {} before).move (.act (.registry .subscribe))).channel? t := by
    intro t ht
    rw [channel?_move, channel?_move]
    have hfind : ((follow {} before).addedBy (.act .subscribeChannel)).find?
        (·.subscription = t) = none := by
      rw [addedBy, added, List.find?_singleton, if_neg]
      exact fun h => ht (of_decide_eq_true h).symm
    rw [hfind]
    rfl
  apply sameBut_of_alike [.act .subscribeChannel] [.act (.registry .subscribe)]
  · exact ⟨rfl, hchannel⟩
  · intro t _
    rfl
  · intro t ht
    simp only [yielded, callsBack, hears_eq, List.append_nil]
    have hstep := hchannel t ht
    rw [move, move] at hstep
    rw [hstep]
    rfl

/-- To the others it is as if a receiver that is dropped were still held. -/
theorem sameBut_dropReceiver (s : Subscription) (before after : List Move) :
    SameBut s (before ++ .act (.dropReceiver s) :: after) (before ++ after) := by
  apply sameBut_of_alike [.act (.dropReceiver s)] []
  · refine ⟨rfl, fun t ht => ?_⟩
    change ((follow {} before).move (.act (.dropReceiver s))).channel? t =
      (follow {} before).channel? t
    rw [channel?_move, addedBy, added, List.find?_nil, Option.or_none]
    · cases hc : (follow {} before).channel? t with
      | none => rfl
      | some c =>
          rw [Option.map_some, treatBy, treat, if_neg]
          rw [subscription_of_channel? hc]
          exact ht
    · intro hsubscribes
      cases hsubscribes
  · intro t _
    rfl
  · intro t _
    rfl

/-- The history in which the next subscriber has a channel. -/
def withChannel (before during : List Move) : List Move :=
  before ++ .act .subscribeChannel :: during

/-- The same history, but for the next subscriber being called at once. -/
def withCallback (before during : List Move) : List Move :=
  before ++ .act (.registry .subscribe) :: during

/-- What holds of the next subscriber with a channel, beside the same one without. -/
structure LikeCallback (before during : List Move) (s : Subscription) : Prop where
  others : SameBut s (withChannel before during) (withCallback before during)
  snapshot_first : ∃ later, calledBack s (withCallback before during) =
    .snapshot (follow {} before).registry.latest :: later
  /-- What the receiver has taken, and can still take, is what the callback hears. Only when nothing more
  waits does the receiver learn whether the subscription goes on. -/
  stream : .act (.dropReceiver s) ∉ during → ∃ queue,
    received s (withChannel before during) ++ queue = calledBack s (withCallback before during) ∧
      (∀ limit, ((follow {} (withChannel before during)).receive s limit).1 = {
        events := queue.take limit
        ending := if queue.length < limit then
          some ((follow {} (withChannel before during)).ending s) else none }) ∧
      ((follow {} (withChannel before during)).step (.drain s)).answer =
        .drained queue ((follow {} (withChannel before during)).ending s)
  disconnected_iff : (follow {} (withChannel before during)).ending s = .disconnected ↔
    .act (.registry (.unsubscribe s)) ∈ during
  /-- A dropped receiver gives up nothing but its events: the subscriber stays until it is taken off. -/
  dropped : ∀ earlier later, during = earlier ++ .act (.dropReceiver s) :: later →
    SameBut s (withChannel before during) (withChannel before (earlier ++ later))
  mem_subscribers_iff : s ∈ (follow {} (withChannel before during)).registry.subscribers ↔
    .act (.registry (.unsubscribe s)) ∉ during

section newcomer

variable {before : List Move} {s : Subscription}
  (hs : (follow {} before).registry.subscribe.1 = s)

include hs

theorem calledBack_withCallback (during : List Move) :
    calledBack s (withCallback before during) =
      told s (actions (withCallback before during)) := by
  apply calledBack_eq_told
  rw [channel?_follow_eq_none_iff, withCallback, actions_append_act]
  exact channel?_eq_none_of_issued (issuedAt_actions hs rfl) (actions during)

theorem told_withChannel (during : List Move) :
    told s (actions (withChannel before during)) =
      told s (actions (withCallback before during)) := by
  have hchannel : IssuedAt (actions before) .subscribeChannel s := issuedAt_actions hs rfl
  have hcallback : IssuedAt (actions before) (.registry .subscribe) s := issuedAt_actions hs rfl
  have hsame : (run {} (actions before ++ [.subscribeChannel])).registry.SameRecords
      (run {} (actions before ++ [.registry .subscribe])).registry := by
    rw [run_concat, run_concat]
    exact ⟨rfl, rfl⟩
  rw [withChannel, withCallback, actions_append_act, actions_append_act, told_eq hchannel,
    told_eq hcallback, (filter_writes hsame _).2]
  exact congrArg _ (filter_writes ⟨rfl, rfl⟩ _).2.symm

theorem mem_subscribers_withChannel (during : List Move) :
    s ∈ (follow {} (withChannel before during)).registry.subscribers ↔
      .act (.registry (.unsubscribe s)) ∉ during := by
  rw [registry_follow, withChannel, actions_append_act,
    mem_subscribers_of_issued (issuedAt_actions hs rfl), mem_actions]

end newcomer

theorem ending_eq_disconnected_iff {h : Hub} {s : Subscription} :
    h.ending s = .disconnected ↔ s ∉ h.registry.subscribers := by
  rw [ending, Registry.listening]
  split
  · rename_i hs
    exact iff_of_false nofun (not_not_intro (List.contains_iff_mem.1 hs))
  · rename_i hs
    exact iff_of_true rfl (mt List.contains_iff_mem.2 hs)

/-- In every history, and in whatever pieces its receiver takes what waits, a subscriber with a channel is
served like one that is called at once. -/
theorem channel_like_callback (before during : List Move) :
    LikeCallback before during (follow {} before).registry.subscribe.1 := by
  generalize hs : (follow {} before).registry.subscribe.1 = s
  have hsubscribers := mem_subscribers_withChannel hs during
  constructor
  · rw [← hs]
    exact sameBut_subscribe before during
  · rw [calledBack_withCallback hs, withCallback, actions_append_act,
      told_eq (issuedAt_actions hs rfl), registry_follow]
    exact ⟨_, rfl⟩
  · intro hheld
    obtain ⟨c, hc, -, hqueue⟩ := received_append_queue hs hheld
    refine ⟨c.queue, ?_, fun limit => ?_, ?_⟩
    · rw [calledBack_withCallback hs, ← told_withChannel hs]
      exact hqueue
    · rw [receive, waiting, withChannel, hc]
      rfl
    · rw [step, withChannel, hc]
      rfl
  · rw [ending_eq_disconnected_iff, hsubscribers, not_not]
  · rintro earlier later rfl
    have hdropped := sameBut_dropReceiver s (withChannel before earlier) later
    simpa [withChannel] using hdropped
  · exact hsubscribers

/-- One sample, before anyone subscribes. -/
def oneCached : List Move := [.act (.registry (.update (.ok "L1" 1 5)))]

/-- A receiver that takes one event, and two more after the subscription has ended. -/
def inPieces : List Move :=
  [.act (.registry (.update (.ok "L1" 2 6))), .receive ⟨0⟩ 1,
    .act (.registry (.update (.failed "L1" 3 "timeout"))), .act (.registry (.unsubscribe ⟨0⟩)),
    .act (.registry (.update (.ok "L1" 4 7))), .receive ⟨0⟩ 2]

/-- Nothing is lost of what was queued before the end, and the next attempt tells of the end. -/
theorem channel_like_callback_inPieces :
    .act (.dropReceiver ⟨0⟩) ∉ inPieces ∧
      received ⟨0⟩ (withChannel oneCached inPieces) =
        calledBack ⟨0⟩ (withCallback oneCached inPieces) ∧
      ((follow {} (withChannel oneCached inPieces)).receive ⟨0⟩ 1).1 =
        ⟨[], some .disconnected⟩ := by
  have hlike : LikeCallback oneCached inPieces ⟨0⟩ := channel_like_callback oneCached inPieces
  have hheld : .act (.dropReceiver ⟨0⟩) ∉ inPieces := by simp [inPieces]
  obtain ⟨queue, hqueue, hreceive, -⟩ := hlike.stream hheld
  have hall : received ⟨0⟩ (withChannel oneCached inPieces) =
      calledBack ⟨0⟩ (withCallback oneCached inPieces) := rfl
  obtain rfl : queue = [] := List.self_eq_append_right.1 (hall.trans hqueue.symm)
  refine ⟨hheld, hall, (hreceive 1).trans ?_⟩
  rw [hlike.disconnected_iff.2 (by simp [inPieces])]
  rfl

end Hub

end MetricWatch
