import Mathlib.Algebra.Ring.Nat
import MetricWatch.Proofs.Poll.Origin

/-!
Delivery is safe: what subscribers hear from the poller stems from a fetch of the present run and of a
present registration. A fetch asks the source once at most and gives one sample at most, and a poller
that was stopped is silent until it is started again.
-/

namespace MetricWatch

namespace Service

/-- How often a task asks the source at a moment. -/
def Moment.calls (number : Nat) (m : Moment) : Nat :=
  match m.action with
  | .ask n => if n = number then m.effect.asked.toList.length else 0
  | _ => 0

/-- How many samples subscribers hear of at a moment because of a task. -/
def Moment.samples (number : Nat) (m : Moment) : Nat :=
  match m.action with
  | .reply n _ => if n = number then m.effect.events.countP Event.isSample else 0
  | _ => 0

/-- Something that needs a permit, uses it up, and gets none back happens once at most. -/
theorem sum_le_one {P : Service → Prop} {f : Moment → Nat}
    (kept : ∀ s a, s.Sound → P (s.step a).1 → P s)
    (spent : ∀ s a, s.Sound → 0 < f ⟨s, a⟩ → f ⟨s, a⟩ = 1 ∧ P s ∧ ¬ P (s.step a).1)
    {s : Service} (hs : s.Sound) (as : List Action) :
    ((s.moments as).map f).sum ≤ 1 ∧ (P (s.run as) → ((s.moments as).map f).sum = 0) := by
  induction as using List.reverseRecOn with
  | nil => simp [moments]
  | append_singleton as a ih =>
      have hsound := sound_run hs as
      rw [moments_concat, List.map_append, List.sum_append, List.map_singleton,
        List.sum_singleton, run_concat]
      by_cases hzero : f ⟨s.run as, a⟩ = 0
      · rw [hzero, Nat.add_zero]
        exact ⟨ih.1, fun h => ih.2 (kept _ _ hsound h)⟩
      · -- The permit is still there before the last action, so that nothing was spent so far.
        obtain ⟨hone, hbefore, hafter⟩ := spent _ _ hsound (Nat.pos_of_ne_zero hzero)
        rw [hone, ih.2 hbefore]
        exact ⟨Nat.le_refl _, fun h => absurd h hafter⟩

/-- Whether a number is yet to be given out, or its task has yet to end. -/
def Open (s : Service) (number : Nat) : Prop :=
  s.issued ≤ number ∨ ∃ t ∈ s.tasks, t.number = number

/-- Whether a number is yet to be given out, or its task has yet to ask. -/
def Unasked (s : Service) (number : Nat) : Prop :=
  s.issued ≤ number ∨ ∃ t ∈ s.tasks, t.number = number ∧ t.asked = false

theorem Step.issued_le {s s' : Service} {a : Action} {e : Effect} (h : Step s a s' e) :
    s.issued ≤ s'.issued := by
  cases h with
  | tick => exact Nat.le_add_right _ _
  | _ => exact Nat.le_refl _

theorem Step.le_of_mem_issued {s s' : Service} {a : Action} {e : Effect} (h : Step s a s' e)
    {t : Task} (ht : t ∈ e.issued) : s.issued ≤ t.number := by
  cases h with
  | tick => exact (of_mem_tasksFrom ht).2.2.1
  | _ => cases ht

/-- A task that is there after a step has a new number, or was there before and has not forgotten that it
asked. -/
theorem Step.number_of_mem {s s' : Service} {a : Action} {e : Effect} (h : Step s a s' e)
    (hs : s.Numbered) {t : Task} (ht : t ∈ s'.tasks) :
    s.issued ≤ t.number ∨
      ∃ u ∈ s.tasks, u.number = t.number ∧ (t.asked = false → u.asked = false) := by
  rcases h.mem_tasks hs ht with ht | ⟨ht, -⟩ | ⟨u, hu, hasked, -, -, rfl⟩
  · exact .inr ⟨t, ht, rfl, id⟩
  · exact .inl (h.le_of_mem_issued ht)
  · exact .inr ⟨u, hu, rfl, fun _ => hasked⟩

theorem open_of_open_step {s : Service} (a : Action) (hs : s.Sound) {number : Nat}
    (h : (s.step a).1.Open number) : s.Open number := by
  have hstep := s.step_spec a
  rcases h with h | ⟨t, ht, rfl⟩
  · exact .inl (Nat.le_trans hstep.issued_le h)
  · rcases hstep.number_of_mem hs.numbered ht with h | ⟨u, hu, hnumber, -⟩
    · exact .inl h
    · exact .inr ⟨u, hu, hnumber⟩

theorem unasked_of_unasked_step {s : Service} (a : Action) (hs : s.Sound) {number : Nat}
    (h : (s.step a).1.Unasked number) : s.Unasked number := by
  have hstep := s.step_spec a
  rcases h with h | ⟨t, ht, rfl, hunasked⟩
  · exact .inl (Nat.le_trans hstep.issued_le h)
  · rcases hstep.number_of_mem hs.numbered ht with h | ⟨u, hu, hnumber, hasked⟩
    · exact .inl h
    · exact .inr ⟨u, hu, hnumber, hasked hunasked⟩

theorem Step.of_asked {s s' : Service} {a : Action} {e : Effect} (h : Step s a s' e) {f : Fetch}
    (hf : e.asked = some f) :
    ∃ t ∈ s.tasks, t.asked = false ∧ s.poller.isCurrent f.epoch = true ∧ a = .ask t.number ∧
      f = t.fetch := by
  cases h with
  | ask t mem unasked current =>
      obtain rfl := Option.some.inj hf
      exact ⟨t, mem, unasked, current, rfl, rfl⟩
  | _ => cases hf

/-- An action that makes the poller tell its subscribers of something is the answer to a task that has
asked, with a sample that passes. -/
theorem Step.of_mem_events {s s' : Service} {a : Action} {e : Effect} (h : Step s a s' e)
    {event : Event} (hevent : event ∈ e.events) :
    ∃ t ∈ s.tasks, ∃ x, t.asked = true ∧ s.Passes t x ∧ a = .reply t.number x ∧
      e.events = s.poller.news x := by
  cases h with
  | deliver t x mem asked passes => exact ⟨t, mem, x, asked, passes, rfl, rfl⟩
  | _ => cases hevent

theorem not_le_of_mem {s : Service} {a : Action} (hs : s.Sound) {t : Task} (ht : t ∈ s.tasks) :
    ¬ (s.step a).1.issued ≤ t.number :=
  Nat.not_le.2 (Nat.lt_of_lt_of_le (hs.numbered.below t ht) (s.step_spec a).issued_le)

theorem calls_le_one {s : Service} (hs : s.Sound) (as : List Action) (number : Nat) :
    ((s.moments as).map (Moment.calls number)).sum ≤ 1 := by
  refine (sum_le_one (P := (Unasked · number)) (fun s a hs => unasked_of_unasked_step a hs)
    ?_ hs as).1
  intro s a hs hpos
  cases a with
  | ask n =>
      by_cases hn : n = number
      · subst hn
        have hcalls : Moment.calls n ⟨s, .ask n⟩ =
            (s.step (.ask n)).2.asked.toList.length := if_pos rfl
        cases hasked : (s.step (.ask n)).2.asked with
        | none =>
            rw [hcalls, hasked] at hpos
            exact absurd hpos (Nat.lt_irrefl 0)
        | some f =>
            obtain ⟨t, ht, hunasked, -, hask, -⟩ := (s.step_spec (.ask n)).of_asked hasked
            obtain rfl := Action.ask.inj hask
            refine ⟨by rw [hcalls, hasked]; rfl, .inr ⟨t, ht, rfl, hunasked⟩, ?_⟩
            rintro (h | ⟨u, hu, hnumber, hstill⟩)
            · exact not_le_of_mem hs ht h
            · rw [asked_of_mem_step_ask hu hnumber] at hstill
              cases hstill
      · have hcalls : Moment.calls number ⟨s, .ask n⟩ = 0 := if_neg hn
        rw [hcalls] at hpos
        exact absurd hpos (Nat.lt_irrefl 0)
  | _ => exact absurd hpos (Nat.lt_irrefl 0)

theorem samples_le_one {s : Service} (hs : s.Sound) (as : List Action) (number : Nat) :
    ((s.moments as).map (Moment.samples number)).sum ≤ 1 := by
  refine (sum_le_one (P := (Open · number)) (fun s a hs => open_of_open_step a hs)
    ?_ hs as).1
  intro s a hs hpos
  cases a with
  | reply n x =>
      by_cases hn : n = number
      · subst hn
        have hsamples : Moment.samples n ⟨s, .reply n x⟩ =
            (s.step (.reply n x)).2.events.countP Event.isSample := if_pos rfl
        rw [hsamples] at hpos ⊢
        obtain ⟨event, hevent, -⟩ := List.countP_pos_iff.1 hpos
        obtain ⟨t, ht, y, hasked, -, hreply, hnews⟩ := (s.step_spec _).of_mem_events hevent
        obtain ⟨rfl, rfl⟩ := Action.reply.inj hreply
        have hle := s.poller.countP_isSample_news x
        rw [← hnews] at hle
        refine ⟨Nat.le_antisymm hle hpos, .inr ⟨t, ht, rfl⟩, ?_⟩
        have hended : (s.step (.reply t.number x)).1.Ended t :=
          ended_of_settles (fun u hu hnumber => hs.numbered.eq_of_number hu ht hnumber ▸ hasked) rfl
        rintro (h | ⟨u, hu, hnumber⟩)
        · exact not_le_of_mem hs ht h
        · exact not_ended_of_mem hu hnumber hended
      · have hsamples : Moment.samples number ⟨s, .reply n x⟩ = 0 := if_neg hn
        rw [hsamples] at hpos
        exact absurd hpos (Nat.lt_irrefl 0)
  | _ => exact absurd hpos (Nat.lt_irrefl 0)

theorem Step.numbers_of_issued {s s' : Service} {a : Action} {e : Effect} (h : Step s a s' e) :
    ∃ n, s'.issued = s.issued + n ∧ e.issued.map (·.number) = List.range' s.issued n := by
  cases h with
  | tick => exact ⟨_, rfl, tasksFrom_numbers _ _⟩
  | _ => exact ⟨0, rfl, rfl⟩

theorem numbers_of_issued (c : Cadence) (r : Registry) (as : List Action) :
    (((fresh c r).moments as).flatMap (·.effect.issued)).map (·.number) =
      List.range ((fresh c r).run as).issued := by
  induction as using List.reverseRecOn with
  | nil => rfl
  | append_singleton as a ih =>
      obtain ⟨n, hissued, hnumbers⟩ := (((fresh c r).run as).step_spec a).numbers_of_issued
      rw [moments_concat, List.flatMap_append, List.map_append, ih, run_concat, hissued,
        List.flatMap_singleton, List.range_eq_range', List.range_eq_range', ← List.range'_append_1,
        Nat.zero_add]
      exact congrArg _ hnumbers

theorem Step.silent {s s' : Service} {a : Action} {e : Effect} (h : Step s a s' e)
    (hs : s.poller.running = false) : e.asked = none ∧ e.events = [] := by
  have hover (epoch : Nat) : s.poller.isCurrent epoch = false := by
    rw [Poller.isCurrent, hs, Bool.false_and]
  constructor
  · apply Option.eq_none_iff_forall_ne_some.2
    intro f hf
    obtain ⟨t, -, -, hcurrent, -⟩ := h.of_asked hf
    rw [hover] at hcurrent
    cases hcurrent
  · apply List.eq_nil_iff_forall_not_mem.2
    intro event hevent
    obtain ⟨t, -, x, -, ⟨-, hcurrent, -⟩, -⟩ := h.of_mem_events hevent
    rw [hover] at hcurrent
    cases hcurrent

theorem Step.stopped {s s' : Service} {a : Action} {e : Effect} (h : Step s a s' e)
    (hs : s.poller.running = false) (hstarted : e.started = none) :
    s'.poller.running = false := by
  cases h.gate with
  | start _ _ started => exact absurd (started.symm.trans hstarted) nofun
  | stop running => exact running
  | same running => rw [running, hs]

theorem running_step_stop (s : Service) : (s.step .stop).1.poller.running = false := by
  change s.poller.stop.running = false
  unfold Poller.stop
  split
  · rfl
  · rename_i h
    exact Bool.eq_false_iff.2 h

theorem silent_of_not_started {s : Service} {as : List Action} (hs : s.poller.running = false)
    (hstarted : ∀ m ∈ s.moments as, m.effect.started = none) :
    ∀ m ∈ s.moments as, m.effect.asked = none ∧ m.effect.events = [] := by
  induction as generalizing s with
  | nil => exact nofun
  | cons a as ih =>
      obtain ⟨hfirst, hrest⟩ := List.forall_mem_cons.1 hstarted
      have hstep := s.step_spec a
      exact List.forall_mem_cons.2 ⟨hstep.silent hs, ih (hstep.stopped hs hfirst) hrest⟩

/-- The way of a task through a run: after `earlier` its definition was registered, after `later` a tick
issued it, and after `waiting` it asked the source. Since then `pending` has taken place. -/
structure Origin (s₀ : Service) (as : List Action) (t : Task)
    (earlier later waiting pending : List Action) : Prop where
  history : as = earlier ++ .register t.fetch.definition ::
    (later ++ .tick t.fetch.epoch :: (waiting ++ .ask t.number :: pending))
  registered : RegisteredAt s₀ earlier t.fetch.definition t.fetch.generation
  issued : IssuedAt s₀ (earlier ++ .register t.fetch.definition :: later) t
  asked : AskedAt s₀
    (earlier ++ .register t.fetch.definition :: (later ++ .tick t.fetch.epoch :: waiting)) t
  /-- The label was not taken off since the registration. -/
  kept : .unregister t.fetch.definition.label ∉
    later ++ .tick t.fetch.epoch :: (waiting ++ .ask t.number :: pending)
  /-- The run was not stopped since the tick. -/
  unstopped : .stop ∉ waiting ++ .ask t.number :: pending

theorem exists_origin (c : Cadence) (r : Registry) (as : List Action) {t : Task} {x : Sample}
    (ht : t ∈ ((fresh c r).run as).tasks) (hasked : t.asked = true)
    (hpasses : ((fresh c r).run as).Passes t x) :
    ∃ earlier later waiting pending, Origin (fresh c r) as t earlier later waiting pending := by
  obtain ⟨-, hcurrent, hpresent⟩ := hpasses
  -- Backwards from the answer: to the tick, and from there to the registration.
  obtain ⟨before, since, rfl, hissued, hsince⟩ := exists_issuedAt c r as ht
  obtain ⟨waiting, pending, rfl, hat⟩ := hsince hasked
  obtain ⟨-, -, hmem, hgen⟩ :=
    (((fresh c r).run before).step_spec (.tick t.fetch.epoch)).of_mem_issued hissued.issued
  have hunstopped : .stop ∉ waiting ++ .ask t.number :: pending := by
    rw [run_append] at hcurrent
    have hle := Nat.le_of_eq (Poller.isCurrent_iff.1 hissued.current).2.symm
    exact fun h => stop_not_mem_of_isCurrent hle hcurrent (List.mem_cons_of_mem _ h)
  obtain ⟨earlier, later, rfl, hregistered⟩ := exists_registeredAt c r before hmem hgen
  rw [History.cut_append] at hpresent
  have hkept := hregistered.kept (Ledger.isCurrent_iff.1 hpresent)
  refine ⟨earlier, later, waiting, pending, ⟨?_, hregistered, hissued, ?_, hkept, hunstopped⟩⟩
  · rw [History.cut_append]
  · rwa [History.cut_append] at hat

/-- Whatever subscribers hear from the poller stems from a task of the present run and of a present
registration, which read the definition of that registration and was given a sample of its label. Each
task asks the source once at most and gives one sample at most. From a stop to the next start the source
is not asked, and nothing is heard. -/
theorem delivery_safe (c : Cadence) (r : Registry) :
    (∀ as a event, event ∈ (((fresh c r).run as).step a).2.events →
      ∃ t x earlier later waiting pending, a = .reply t.number x ∧
        Origin (fresh c r) as t earlier later waiting pending ∧
        ((fresh c r).run as).Passes t x ∧
        event.label? = some t.fetch.definition.label ∧ ∀ y, event = .sample y → y = x) ∧
    (∀ as, (((fresh c r).moments as).flatMap (·.effect.issued)).map (·.number) =
        List.range ((fresh c r).run as).issued ∧
      ∀ number, (((fresh c r).moments as).map (Moment.calls number)).sum ≤ 1 ∧
        (((fresh c r).moments as).map (Moment.samples number)).sum ≤ 1) ∧
    ∀ before since,
      (∀ m ∈ ((fresh c r).run (before ++ [.stop])).moments since, m.effect.started = none) →
      ∀ m ∈ ((fresh c r).run (before ++ [.stop])).moments since,
        m.effect.asked = none ∧ m.effect.events = [] := by
  refine ⟨?_, ?_, ?_⟩
  · intro as a event hevent
    obtain ⟨t, ht, x, hasked, hpasses, rfl, hnews⟩ :=
      (((fresh c r).run as).step_spec a).of_mem_events hevent
    obtain ⟨earlier, later, waiting, pending, horigin⟩ := exists_origin c r as ht hasked hpasses
    rw [hnews] at hevent
    refine ⟨t, x, earlier, later, waiting, pending, rfl, horigin, hpasses, ?_, ?_⟩
    · rw [Poller.label?_of_mem_news hevent, hpasses.1]
    · rintro y rfl
      exact Poller.eq_of_sample_mem_news hevent
  · intro as
    refine ⟨numbers_of_issued c r as, ?_⟩
    intro number
    exact ⟨calls_le_one (sound_fresh c r) as number, samples_le_one (sound_fresh c r) as number⟩
  · intro before since hstarted
    refine silent_of_not_started ?_ hstarted
    rw [run_concat]
    exact running_step_stop _

/-- Two failures in a row are heard of, and after a stop neither a tick nor an answer is. -/
theorem delivery_safe_of_degraded :
    .degraded { label := "L1", failures := 2, lastError := some "refused", timestamp := 5 } ∈
        (((fresh .everySecond {}).run
          (feeding .requests [.failed "L1" 3 "timeout"] ++ [.tick 1, .ask 1])).step
            (.reply 1 (.failed "L1" 5 "refused"))).2.events ∧
      (∃ t x earlier later waiting pending,
        Action.reply 1 (.failed "L1" 5 "refused") = .reply t.number x ∧
          Origin (fresh .everySecond {})
            (feeding .requests [.failed "L1" 3 "timeout"] ++ [.tick 1, .ask 1])
            t earlier later waiting pending) ∧
      ∀ m ∈ ((fresh .everySecond {}).run
          (feeding .requests [.failed "L1" 3 "timeout"] ++ [.tick 1, .ask 1] ++ [.stop])).moments
            [.tick 1, .reply 1 (.failed "L1" 5 "refused")],
        m.effect.asked = none ∧ m.effect.events = [] := by
  obtain ⟨horigins, -, hsilent⟩ := delivery_safe .everySecond {}
  have hevent : .degraded
      { label := "L1", failures := 2, lastError := some "refused", timestamp := 5 } ∈
        (((fresh .everySecond {}).run
          (feeding .requests [.failed "L1" 3 "timeout"] ++ [.tick 1, .ask 1])).step
            (.reply 1 (.failed "L1" 5 "refused"))).2.events := by decide
  refine ⟨hevent, ?_, hsilent _ _ ?_⟩
  · obtain ⟨t, x, earlier, later, waiting, pending, hreply, horigin, -⟩ := horigins _ _ _ hevent
    exact ⟨t, x, earlier, later, waiting, pending, hreply, horigin⟩
  · simp only [moments, List.forall_mem_cons]
    exact ⟨by decide, by decide, List.forall_mem_nil _⟩

end Service

end MetricWatch
