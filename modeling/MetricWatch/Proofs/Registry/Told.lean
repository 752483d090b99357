import Mathlib.Data.List.TakeWhile
import MetricWatch.Proofs.Registry.Subscription

/-!
What a subscriber is told: all that was cached when it subscribed, and then all that is broadcast until
it is taken off. Both depend on what is written to the registry alone, and not on who else is subscribed.
-/

namespace MetricWatch

namespace Registry

/-- Whether two registries have the same cached, and accept the same samples. -/
structure SameRecords (r r' : Registry) : Prop where
  latest : r.latest = r'.latest
  newest : r.newest = r'.newest

theorem SameRecords.trans {r r' r'' : Registry} (h : r.SameRecords r')
    (h' : r'.SameRecords r'') : r.SameRecords r'' :=
  ⟨h.latest.trans h'.latest, h.newest.trans h'.newest⟩

theorem SameRecords.accepts_eq {r r' : Registry} (h : r.SameRecords r') (x : Sample) :
    r.accepts x = r'.accepts x := by
  rw [accepts, accepts, h.newest]

theorem SameRecords.event?_eq {r r' : Registry} (h : r.SameRecords r') (a : Action) :
    r.event? a = r'.event? a := by
  cases a with
  | update x => rw [event?, event?, h.accepts_eq]
  | _ => rfl

theorem SameRecords.step {r r' : Registry} (h : r.SameRecords r') (a : Action) :
    (r.step a).registry.SameRecords (r'.step a).registry := by
  obtain ⟨hlatest, hnewest⟩ := h
  cases a with
  | update x =>
      rw [step_update, step_update, SameRecords.accepts_eq ⟨hlatest, hnewest⟩]
      split
      · constructor
        · simp only [record, hlatest]
        · simp only [record, hnewest]
      · exact ⟨hlatest, hnewest⟩
  | remove label =>
      constructor
      · simp only [Registry.step, remove, hlatest]
      · simp only [Registry.step, remove, hnewest]
  | _ => exact ⟨hlatest, hnewest⟩

end Registry

namespace Hub

/-- What a history tells one subscriber. -/
def told (s : Subscription) (as : List Action) : List Event :=
  gathered (fun h a => h.heard s a) as

/-- What all who are subscribed are told from some point of a history on. -/
def broadcasts (h : Hub) (as : List Action) : List Event :=
  (h.moments as).filterMap fun m => m.before.event? m.action

/-- The actions before the first one that takes a subscriber off. -/
def lifetime (s : Subscription) (as : List Action) : List Action := as.takeWhile (!·.ends s)

theorem lifetime_eq_self {s : Subscription} {as : List Action}
    (h : .registry (.unsubscribe s) ∉ as) : lifetime s as = as := by
  apply List.takeWhile_eq_self_iff.2
  intro a ha
  rw [Bool.not_eq_true', ends_eq_false_iff]
  rintro rfl
  exact h ha

theorem lifetime_append_of_mem {s : Subscription} {as : List Action}
    (h : .registry (.unsubscribe s) ∈ as) (bs : List Action) :
    lifetime s (as ++ bs) = lifetime s as := by
  have hne : (lifetime s as).length ≠ as.length := by
    intro hlength
    have hself := (List.takeWhile_prefix _).eq_of_length hlength
    have hkept := List.takeWhile_eq_self_iff.1 hself _ h
    rw [Bool.not_eq_true', ends_eq_false_iff] at hkept
    exact hkept rfl
  exact List.takeWhile_append.trans (if_neg hne)

theorem lifetime_concat_of_not_mem {s : Subscription} {as : List Action}
    (h : .registry (.unsubscribe s) ∉ as) (a : Action) :
    lifetime s (as ++ [a]) = as ++ if a.ends s then [] else [a] := by
  have hself := lifetime_eq_self h
  rw [lifetime, List.takeWhile_append, ← lifetime, hself, if_pos rfl, List.takeWhile_cons]
  cases a.ends s <;> rfl

theorem told_concat (s : Subscription) (as : List Action) (a : Action) :
    told s (as ++ [a]) = told s as ++ (run {} as).heard s a :=
  gathered_concat _ as a

theorem broadcasts_concat (h : Hub) (as : List Action) (a : Action) :
    h.broadcasts (as ++ [a]) = h.broadcasts as ++ ((h.run as).event? a).toList := by
  rw [broadcasts, moments_concat, List.filterMap_append, broadcasts]
  congr 1

theorem told_of_not_issued {s : Subscription} {as : List Action}
    (h : (run {} as).registry.issued ≤ s.number) : told s as = [] := by
  induction as using List.reverseRecOn with
  | nil => rfl
  | append_singleton as a ih =>
      have hordered := ordered_run as
      rw [run_concat, issued_step] at h
      have hle : (run {} as).registry.issued ≤ s.number := Nat.le_of_add_right_le h
      rw [told_concat, ih hle, heard_eq hordered, if_neg (hordered.not_mem hle), if_neg]
      · rfl
      · rintro ⟨hopens, rfl⟩
        rw [hopens] at h
        exact Nat.lt_irrefl _ h

theorem told_eq {before : List Action} {b : Action} {s : Subscription} (h : IssuedAt before b s)
    (during : List Action) :
    told s (before ++ b :: during) =
      .snapshot (run {} before).registry.latest ::
        (run {} (before ++ [b])).broadcasts (lifetime s during) := by
  induction during using List.reverseRecOn with
  | nil =>
      obtain ⟨hopens, rfl⟩ := issuedAt_iff.1 h
      have hordered := ordered_run before
      rw [told_concat, told_of_not_issued (Nat.le_refl _), heard_eq hordered,
        if_neg (hordered.not_mem (Nat.le_refl _)), if_pos ⟨hopens, rfl⟩]
      rfl
  | append_singleton during a ih =>
      rw [← History.cut_append, told_concat, ih, heard_eq (ordered_run _),
        if_neg (not_issued_again h during a), List.append_nil]
      -- What comes after the subscription was taken off is neither told nor counted.
      by_cases hkept : .registry (.unsubscribe s) ∈ during
      · rw [if_neg (mt (mem_subscribers_of_issued h during).1 (not_not_intro hkept)),
          List.append_nil, lifetime_append_of_mem hkept]
      · rw [if_pos ((mem_subscribers_of_issued h during).2 hkept), lifetime_eq_self hkept,
          lifetime_concat_of_not_mem hkept]
        cases hends : a.ends s with
        | true =>
            rw [ends_iff.1 hends]
            simp [event?, Action.asks, Registry.event?]
        | false =>
            rw [if_neg Bool.false_ne_true, broadcasts_concat, ← run_append]
            simp

theorem sameRecords_step_of_not_writes (h : Hub) {a : Action} (ha : a.writes = false) :
    (h.step a).hub.registry.SameRecords h.registry ∧ h.event? a = none := by
  rw [registry_step, event?]
  rw [Action.writes] at ha
  cases hasks : a.asks with
  | none => exact ⟨⟨rfl, rfl⟩, rfl⟩
  | some r =>
      rw [hasks, Option.any_some] at ha
      cases r with
      | subscribe => exact ⟨⟨rfl, rfl⟩, rfl⟩
      | unsubscribe s => exact ⟨⟨rfl, rfl⟩, rfl⟩
      | _ => cases ha

theorem IssuedAt.sameRecords {before : List Action} {b : Action} {s : Subscription}
    (h : IssuedAt before b s) :
    (run {} (before ++ [b])).registry.SameRecords (run {} before).registry := by
  obtain ⟨hopens, -⟩ := issuedAt_iff.1 h
  have hwrites : b.writes = false := by
    rw [Action.writes, opens_iff.1 hopens]
    rfl
  rw [run_concat]
  exact (sameRecords_step_of_not_writes (run {} before) hwrites).1

/-- Only what is written counts: a history records and broadcasts the same without the actions that are
about subscribers and receivers. -/
theorem filter_writes {h h' : Hub} (hsame : h.registry.SameRecords h'.registry)
    (as : List Action) :
    (h.run as).registry.SameRecords (h'.run (as.filter (·.writes))).registry ∧
      h.broadcasts as = h'.broadcasts (as.filter (·.writes)) := by
  induction as using List.reverseRecOn with
  | nil => exact ⟨hsame, rfl⟩
  | append_singleton as a ih =>
      -- Both registries go on in step, so that an action has the same event told in each.
      obtain ⟨hrun, hbroadcasts⟩ := ih
      rw [run_concat, broadcasts_concat, List.filter_append, List.filter_singleton]
      cases ha : a.writes with
      | false =>
          obtain ⟨hstep, hevent⟩ := sameRecords_step_of_not_writes (h.run as) ha
          rw [hevent, cond_false, List.append_nil, Option.toList_none, List.append_nil]
          exact ⟨hstep.trans hrun, hbroadcasts⟩
      | true =>
          rw [cond_true, run_concat, broadcasts_concat, hbroadcasts]
          refine ⟨?_, congrArg _ ?_⟩
          · rw [registry_step, registry_step]
            cases a.asks with
            | none => exact hrun
            | some r => exact hrun.step r
          · rw [event?, event?]
            cases a.asks with
            | none => rfl
            | some r => exact congrArg _ (hrun.event?_eq r)

end Hub

end MetricWatch
