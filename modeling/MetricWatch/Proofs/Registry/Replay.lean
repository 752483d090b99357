import MetricWatch.Proofs.Registry.Told

/-!
What can be rebuilt from a subscriber's events. Starting from the snapshot and overwriting an entry with
each sample that has a value, one has all that is cached, whenever the subscription began. Removals are
not told, so that the rebuilt map may have more than the cache: entries of removed labels.
-/

namespace MetricWatch

/-- The sample that an event tells of a label, if it has a value. -/
def Event.value? (label : String) : Event → Option Sample
  | .sample x => if !x.isFailure && x.label = label then some x else none
  | _ => none

/-- A map of samples after one more event, which overwrites an entry if it tells of a value. -/
def Event.shown (view : LabelMap Sample) : Event → LabelMap Sample
  | .sample x => if x.isFailure then view else view.insert x.label x
  | _ => view

/-- The map that is rebuilt from the events of a subscriber. -/
def Event.replay : List Event → Option (LabelMap Sample)
  | .snapshot latest :: events => some (events.foldl shown latest)
  | _ => none

theorem Event.get?_shown (view : LabelMap Sample) (e : Event) (label : String) :
    (e.shown view).get? label = (e.value? label).or (view.get? label) := by
  cases e with
  | sample x =>
      rw [shown, value?]
      cases x.isFailure with
      | true => rfl
      | false =>
          rw [if_neg Bool.false_ne_true, LabelMap.get?_insert]
          by_cases h : x.label = label <;> simp [h]
  | _ => rfl

namespace Registry

/-- The cache is itself rebuilt from the events, but for removals. -/
theorem latest_step (r : Registry) (a : Action) (label : String) :
    (r.step a).registry.latest.get? label =
      if a.removes label then none
      else ((r.event? a).bind (·.value? label)).or (r.latest.get? label) := by
  cases a with
  | update x =>
      rw [step_update, event?]
      cases r.accepts x with
      | false => rfl
      | true =>
          have hshown := Event.get?_shown r.latest (.sample x) label
          exact hshown
  | remove other =>
      change (r.latest.erase other).get? label = _
      rw [LabelMap.get?_erase, Action.removes]
      simp [event?]
  | _ => rfl

end Registry

namespace Hub

theorem latest_step (h : Hub) (a : Action) (label : String) :
    (h.step a).hub.registry.latest.get? label =
      if a.removes label then none
      else ((h.event? a).bind (·.value? label)).or (h.registry.latest.get? label) := by
  rw [registry_step, event?, Action.removes]
  cases a.asks with
  | none => rfl
  | some r => exact h.registry.latest_step r label

/-- Whether a map has all that is cached, and nothing else but for the labels that some actions removed. -/
structure Shows (since : List Action) (latest view : LabelMap Sample) : Prop where
  cached : ∀ label x, latest.get? label = some x → view.get? label = some x
  agrees : ∀ label, .registry (.remove label) ∉ since → view.get? label = latest.get? label

theorem Shows.step {since : List Action} {h : Hub} {view : LabelMap Sample}
    (hshows : Shows since h.registry.latest view) (a : Action) :
    Shows (since ++ [a]) (h.step a).hub.registry.latest
      ((h.event? a).toList.foldl Event.shown view) := by
  have hview (label : String) : ((h.event? a).toList.foldl Event.shown view).get? label =
      ((h.event? a).bind (·.value? label)).or (view.get? label) := by
    cases h.event? a with
    | none => rfl
    | some e => exact e.get?_shown view label
  constructor
  · intro label x hx
    rw [latest_step] at hx
    split at hx
    · cases hx
    · rw [hview]
      -- Either the event overwrites the entry in both maps, or it stays in both.
      cases hvalue : (h.event? a).bind (·.value? label) with
      | none =>
          rw [hvalue] at hx
          exact hshows.cached label x hx
      | some y =>
          rw [hvalue] at hx
          exact hx
  · intro label hlabel
    rw [List.mem_append, List.mem_singleton, not_or] at hlabel
    have hkept : ¬ a.removes label = true := fun hremoves => hlabel.2 (removes_iff.1 hremoves).symm
    rw [hview, latest_step, if_neg hkept, hshows.agrees label hlabel.1]

theorem shows_run {h : Hub} (since : List Action) :
    Shows since (h.run since).registry.latest
      ((h.broadcasts since).foldl Event.shown h.registry.latest) := by
  induction since using List.reverseRecOn with
  | nil => exact ⟨fun _ _ hx => hx, fun _ _ => rfl⟩
  | append_singleton since a ih =>
      rw [run_concat, broadcasts_concat, List.foldl_append]
      exact ih.step a

theorem replay_told {before : List Action} {b : Action} {s : Subscription}
    (h : IssuedAt before b s) {since : List Action} (hkept : .registry (.unsubscribe s) ∉ since) :
    ∃ view, Event.replay (told s (before ++ b :: since)) = some view ∧
      Shows since (run {} (before ++ b :: since)).registry.latest view := by
  have hshows := shows_run (h := run {} (before ++ [b])) since
  rw [← run_append, List.append_assoc, List.singleton_append, h.sameRecords.latest] at hshows
  refine ⟨_, ?_, hshows⟩
  rw [told_eq h, lifetime_eq_self hkept, Event.replay]

/-- Whoever is subscribed can rebuild all that is cached from what it was told. -/
theorem replay_shows_cache :
    (∀ before b since s, IssuedAt before b s → .registry (.unsubscribe s) ∉ since →
      ∃ view, Event.replay (told s (before ++ b :: since)) = some view ∧
        (∀ label x, (run {} (before ++ b :: since)).registry.latest.get? label = some x →
          view.get? label = some x) ∧
        ∀ label, .registry (.remove label) ∉ since →
          view.get? label = (run {} (before ++ b :: since)).registry.latest.get? label) ∧
    ∀ as s t, Listening as s → Listening as t →
      ∃ view view', Event.replay (told s as) = some view ∧ Event.replay (told t as) = some view' ∧
        ∀ label, ((run {} as).registry.latest.get? label).isSome = true →
          view.get? label = view'.get? label := by
  constructor
  · intro before b since s hissued hkept
    obtain ⟨view, hreplay, hshows⟩ := replay_told hissued hkept
    exact ⟨view, hreplay, hshows.cached, hshows.agrees⟩
  · intro as s t hs ht
    obtain ⟨before, b, since, rfl, hissued, hkept⟩ := hs
    obtain ⟨view, hreplay, hshows⟩ := replay_told hissued hkept
    obtain ⟨before', b', since', hsplit, hissued', hkept'⟩ := ht
    obtain ⟨view', hreplay', hshows'⟩ := replay_told hissued' hkept'
    rw [← hsplit] at hreplay' hshows'
    refine ⟨view, view', hreplay, hreplay', ?_⟩
    intro label hlabel
    obtain ⟨x, hx⟩ := Option.isSome_iff_exists.1 hlabel
    rw [hshows.cached label x hx, hshows'.cached label x hx]

/-- Of two labels one is removed before a second subscriber joins. -/
def lateJoin : List Action :=
  [.registry (.update (.ok "L1" 5 1)), .registry (.update (.ok "L2" 5 2)),
    .registry (.remove "L1"), .subscribeChannel, .registry (.update (.failed "L2" 6 "timeout"))]

/-- The late subscriber rebuilds the same as the first one, but for the removed label. -/
theorem replay_shows_cache_lateJoin :
    (IssuedAt [] (.registry .subscribe) ⟨0⟩ ∧ .registry (.unsubscribe ⟨0⟩) ∉ lateJoin) ∧
      (Listening (.registry .subscribe :: lateJoin) ⟨0⟩ ∧
        Listening (.registry .subscribe :: lateJoin) ⟨1⟩) ∧
      (∃ view, Event.replay (told ⟨0⟩ (.registry .subscribe :: lateJoin)) = some view ∧
        view.get? "L2" = some (.ok "L2" 5 2)) ∧
      ∃ view view', Event.replay (told ⟨0⟩ (.registry .subscribe :: lateJoin)) = some view ∧
        Event.replay (told ⟨1⟩ (.registry .subscribe :: lateJoin)) = some view' ∧
        view.get? "L2" = view'.get? "L2" := by
  have hissued : IssuedAt [] (.registry .subscribe) ⟨0⟩ := rfl
  have hkept : .registry (.unsubscribe ⟨0⟩) ∉ lateJoin := by simp [lateJoin]
  have hfirst : Listening (.registry .subscribe :: lateJoin) ⟨0⟩ :=
    ⟨[], .registry .subscribe, lateJoin, rfl, hissued, hkept⟩
  have hlate : Listening (.registry .subscribe :: lateJoin) ⟨1⟩ :=
    ⟨.registry .subscribe :: lateJoin.take 3, .subscribeChannel, lateJoin.drop 4, rfl, rfl,
      by simp [lateJoin]⟩
  refine ⟨⟨hissued, hkept⟩, ⟨hfirst, hlate⟩, ?_, ?_⟩
  · obtain ⟨view, hreplay, hcached, -⟩ := replay_shows_cache.1 _ _ _ _ hissued hkept
    exact ⟨view, hreplay, hcached "L2" _ rfl⟩
  · obtain ⟨view, view', hreplay, hreplay', hsame⟩ := replay_shows_cache.2 _ _ _ hfirst hlate
    exact ⟨view, view', hreplay, hreplay', hsame "L2" rfl⟩

end Hub

end MetricWatch
