import MetricWatch.Proofs.History
import MetricWatch.Proofs.Registry.Run

/-!
Subscriptions over a history: each is given out once, and who is subscribed at a time is who was given a
subscription that was not taken off since.
-/

namespace MetricWatch

namespace Hub

/-- The subscription that an answer gives, if it gives one. -/
def Answer.subscription? : Answer → Option Subscription
  | .registry (.subscribed s) => some s
  | _ => none

/-- The subscriptions that a history gives out, in order. -/
def handles (as : List Action) : List Subscription :=
  (moments {} as).filterMap fun m => (m.before.step m.action).answer.subscription?

/-- Whether an action gives out a subscription, after the actions `before`. -/
def IssuedAt (before : List Action) (b : Action) (s : Subscription) : Prop :=
  ((run {} before).step b).answer = .registry (.subscribed s)

/-- Whether a subscription was given out and has not been taken off since. -/
def Listening (as : List Action) (s : Subscription) : Prop :=
  ∃ before b since, as = before ++ b :: since ∧ IssuedAt before b s ∧
    .registry (.unsubscribe s) ∉ since

theorem subscription?_step (h : Hub) (a : Action) :
    (h.step a).answer.subscription? = if a.opens then some h.registry.subscribe.1 else none := by
  cases a with
  | registry a =>
      cases a with
      | update x =>
          rw [step, forward, Registry.step_update]
          split <;> rfl
      | _ => rfl
  | _ => rfl

theorem issuedAt_iff {before : List Action} {b : Action} {s : Subscription} :
    IssuedAt before b s ↔ b.opens = true ∧ (run {} before).registry.subscribe.1 = s := by
  have hanswer := subscription?_step (run {} before) b
  constructor
  · intro h
    rw [IssuedAt] at h
    rw [h, Answer.subscription?] at hanswer
    split at hanswer
    · rename_i hopens
      exact ⟨hopens, (Option.some.inj hanswer).symm⟩
    · cases hanswer
  · rintro ⟨hopens, rfl⟩
    cases b with
    | registry a =>
        cases a with
        | subscribe => rfl
        | _ => cases hopens
    | subscribeChannel => rfl
    | _ => cases hopens

theorem handles_concat (as : List Action) (a : Action) :
    handles (as ++ [a]) =
      handles as ++ if a.opens then [(run {} as).registry.subscribe.1] else [] := by
  have hanswer := subscription?_step (run {} as) a
  rw [handles, moments_concat, List.filterMap_append, handles]
  congr 1
  cases hopens : a.opens with
  | false =>
      rw [hopens, if_neg Bool.false_ne_true] at hanswer
      exact List.filterMap_cons_none hanswer
  | true =>
      rw [hopens, if_pos rfl] at hanswer
      exact List.filterMap_cons_some hanswer

/-- The subscriptions are numbered from zero on. -/
theorem handles_eq (as : List Action) :
    handles as = (List.range (run {} as).registry.issued).map Subscription.mk := by
  induction as using List.reverseRecOn with
  | nil => rfl
  | append_singleton as a ih =>
      rw [handles_concat, ih, run_concat, issued_step]
      cases a.opens with
      | false => simp
      | true => simp [List.range_succ, Registry.subscribe]

theorem subscribers_sublist_handles (as : List Action) :
    (run {} as).registry.subscribers.Sublist (handles as) := by
  induction as using List.reverseRecOn with
  | nil => exact List.Sublist.refl _
  | append_singleton as a ih =>
      rw [run_concat, subscribers_step, handles_concat]
      exact List.filter_sublist.trans (ih.append (List.Sublist.refl _))

theorem ends_iff {s : Subscription} {a : Action} :
    a.ends s = true ↔ a = .registry (.unsubscribe s) := by
  constructor
  · intro h
    cases a with
    | registry a =>
        cases a with
        | unsubscribe t => rw [show t = s from of_decide_eq_true h]
        | _ => cases h
    | _ => cases h
  · rintro rfl
    exact decide_eq_true rfl

theorem ends_eq_false_iff {s : Subscription} {a : Action} :
    a.ends s = false ↔ a ≠ .registry (.unsubscribe s) := by
  rw [← Bool.not_eq_true, ne_eq, ends_iff]

theorem ends_eq_false_of_opens {a : Action} (h : a.opens = true) (s : Subscription) :
    a.ends s = false := by
  rw [Action.ends, opens_iff.1 h]
  rfl

theorem listening_concat {as : List Action} {a : Action} {s : Subscription} :
    Listening (as ++ [a]) s ↔
      (Listening as s ∨ a.opens = true ∧ (run {} as).registry.subscribe.1 = s) ∧
        a.ends s = false := by
  constructor
  · -- The subscription was given out by the last action, or before it.
    rintro ⟨before, b, since, hcut, hissued, hkept⟩
    rcases History.cut_concat_cases hcut with ⟨rfl, rfl, -⟩ | ⟨since, rfl, rfl⟩
    · exact ⟨.inr (issuedAt_iff.1 hissued),
        ends_eq_false_of_opens (issuedAt_iff.1 hissued).1 s⟩
    · rw [List.mem_append, List.mem_singleton, not_or] at hkept
      exact ⟨.inl ⟨before, b, since, rfl, hissued, hkept.1⟩, ends_eq_false_iff.2 (Ne.symm hkept.2)⟩
  · rintro ⟨⟨before, b, since, rfl, hissued, hkept⟩ | hissued, hends⟩
    · refine ⟨before, b, since ++ [a], History.cut_append _ _ _ _, hissued, ?_⟩
      rw [List.mem_append, List.mem_singleton, not_or]
      exact ⟨hkept, Ne.symm (ends_eq_false_iff.1 hends)⟩
    · exact ⟨as, a, [], rfl, issuedAt_iff.2 hissued, List.not_mem_nil⟩

/-- Who is subscribed can be read off the history. -/
theorem mem_subscribers_run {as : List Action} {s : Subscription} :
    s ∈ (run {} as).registry.subscribers ↔ Listening as s := by
  induction as using List.reverseRecOn with
  | nil =>
      constructor
      · exact nofun
      · rintro ⟨before, b, since, hsplit, -⟩
        cases before <;> cases hsplit
  | append_singleton as a ih => rw [run_concat, mem_subscribers_step, listening_concat, ih]

section issued

variable {before : List Action} {b : Action} {s : Subscription} (h : IssuedAt before b s)

include h

theorem number_lt_of_issued (during : List Action) :
    s.number < (run {} (before ++ b :: during)).registry.issued := by
  obtain ⟨hopens, rfl⟩ := issuedAt_iff.1 h
  induction during using List.reverseRecOn with
  | nil =>
      rw [run_concat, issued_step, hopens]
      exact Nat.lt_succ_self _
  | append_singleton during a ih =>
      rw [← History.cut_append, run_concat, issued_step]
      exact Nat.lt_add_right _ ih

theorem not_issued_again (during : List Action) (a : Action) :
    ¬ (a.opens = true ∧ (run {} (before ++ b :: during)).registry.subscribe.1 = s) := by
  rintro ⟨-, rfl⟩
  exact Nat.lt_irrefl _ (number_lt_of_issued h during)

theorem mem_subscribers_of_issued (during : List Action) :
    s ∈ (run {} (before ++ b :: during)).registry.subscribers ↔
      .registry (.unsubscribe s) ∉ during := by
  induction during using List.reverseRecOn with
  | nil =>
      obtain ⟨hopens, hs⟩ := issuedAt_iff.1 h
      rw [run_concat, mem_subscribers_step]
      exact iff_of_true ⟨.inr ⟨hopens, hs⟩, ends_eq_false_of_opens hopens s⟩ List.not_mem_nil
  | append_singleton during a ih =>
      rw [← History.cut_append, run_concat, mem_subscribers_step, ih,
        or_iff_left (not_issued_again h during a), List.mem_append, List.mem_singleton, not_or,
        ends_eq_false_iff, ne_comm, ne_eq]

end issued

end Hub

end MetricWatch
