import MetricWatch.Proofs.Poll.Tasks

/-!
Single flight: a series is marked as in flight exactly while one task of its registration is
outstanding, and there is never a second one. Tasks of earlier registrations of the label do not touch
the mark, whenever they end.
-/

namespace MetricWatch

namespace Service

/-- How many tasks that were issued for a registration of a label have not ended. -/
def outstanding (s : Service) (label : String) (generation : Nat) : Nat :=
  s.tasks.countP fun t => t.fetch.isFor label generation

/-- Each mark in the ledger counts the tasks of its registration, and no task belongs to a registration
that is yet to come. -/
structure SingleFlight (s : Service) : Prop where
  marked : ∀ label series, s.poller.ledger.series? label = some series →
    s.outstanding label series.generation = series.inFlight.toNat
  issued : ∀ t ∈ s.tasks, t.fetch.generation ≤ s.poller.ledger.generations

theorem SingleFlight.of_eq {s s' : Service} (h : s.SingleFlight) (htasks : s'.tasks = s.tasks)
    (hledger : s'.poller.ledger = s.poller.ledger) : s'.SingleFlight where
  marked label series := by
    rw [hledger, outstanding, htasks]
    exact h.marked label series
  issued t := by
    rw [hledger, htasks]
    exact h.issued t

theorem SingleFlight.taking {s : Service} (h : s.SingleFlight) (x : Sample) :
    SingleFlight { s with poller := s.poller.taking x } where
  marked label series hseries := by
    change (s.poller.ledger.record s.poller.cadence.threshold x).2.series? label =
      some series at hseries
    rw [Ledger.series?_record] at hseries
    split at hseries
    · obtain ⟨old, hold, rfl⟩ := Option.map_eq_some_iff.1 hseries
      rw [Series.taking_generation, Series.taking_inFlight]
      exact h.marked label old hold
    · exact h.marked label series hseries
  issued t ht :=
    Nat.le_trans (h.issued t ht) (Nat.le_of_eq (Ledger.generations_record _ _ _).symm)

theorem SingleFlight.endTask {s : Service} (h : s.SingleFlight) (hs : s.Numbered) {t : Task}
    (ht : t ∈ s.tasks) : (s.endTask t).SingleFlight where
  marked label series hseries := by
    have hsplit (generation : Nat) :
        s.outstanding label generation = (s.endTask t).outstanding label generation +
          (t.fetch.isFor label generation).toNat :=
      hs.countP_endTask ht _
    change (s.poller.ledger.finishFetch _ _).series? label = some series at hseries
    rw [Ledger.series?_finishFetch] at hseries
    split at hseries
    · rename_i hlabel
      obtain ⟨old, hold, rfl⟩ := Option.map_eq_some_iff.1 hseries
      have hcount := h.marked label old hold
      rw [hsplit] at hcount
      rw [Series.released_generation]
      by_cases hgen : old.generation = t.fetch.generation
      · have hfor : t.fetch.isFor label old.generation = true := by
          simp [Fetch.isFor, hlabel, hgen]
        have hle := Bool.toNat_le old.inFlight
        rw [hfor, Bool.toNat_true] at hcount
        rw [← hgen, Series.released_self_inFlight, Bool.toNat_false]
        omega
      · -- The label was registered anew since, and the mark is not the task's own.
        have hfor : t.fetch.isFor label old.generation = false := by
          simp [Fetch.isFor, Ne.symm hgen]
        rw [hfor, Bool.toNat_false] at hcount
        rw [Series.released_of_ne hgen]
        exact hcount
    · rename_i hlabel
      have hcount := h.marked label series hseries
      have hfor : t.fetch.isFor label series.generation = false := by
        simp [Fetch.isFor, hlabel]
      rw [hsplit, hfor, Bool.toNat_false] at hcount
      exact hcount
  issued u hu :=
    Nat.le_trans (h.issued u (List.mem_filter.1 hu).1)
      (Nat.le_of_eq (Ledger.generations_finishFetch _ _ _).symm)

theorem countP_issue (epoch : Nat) {ds : List Definition} {l : Ledger} {label : String}
    {series : Series} (hds : (ds.map (·.label)).Nodup) (hlabel : label ∈ ds.map (·.label))
    (hseries : l.series? label = some series) :
    (Poller.issue epoch ds l).1.countP (·.isFor label series.generation) =
      (!series.inFlight).toNat := by
  have hdue (d : Definition) :
      ((Poller.due? epoch l d).map (·.isFor label series.generation)).getD false =
        (d.label == label && !series.inFlight) := by
    by_cases hd : d.label = label
    · subst hd
      cases hflight : series.inFlight <;> simp [Poller.due?, hseries, hflight, Fetch.isFor]
    · cases hdue : Poller.due? epoch l d with
      | none => simp [hd]
      | some f =>
          obtain ⟨_, _, _, rfl⟩ := Poller.due?_eq_some_iff.1 hdue
          simp [Fetch.isFor, hd]
  rw [Poller.issue_fetches l hds, List.countP_filterMap]
  simp only [hdue]
  cases series.inFlight with
  | true => simp
  | false =>
      have hone : (ds.map (·.label)).count label = 1 := List.count_eq_one_of_mem hds hlabel
      rw [List.count, List.countP_map] at hone
      simpa [Function.comp_def] using hone

theorem SingleFlight.tick {s : Service} (h : s.SingleFlight) (hs : s.poller.Coherent)
    {epoch : Nat} {fetches : List Fetch} {ledger : Ledger}
    (issue : Poller.issue epoch s.poller.definitions s.poller.ledger.beginTick =
      (fetches, ledger)) :
    SingleFlight {
      poller := { s.poller with ledger }
      tasks := s.tasks ++ tasksFrom s.issued fetches
      issued := s.issued + fetches.length } where
  marked label series hseries := by
    obtain rfl := congrArg Prod.snd issue
    rw [Poller.series?_issue _ _ hs.distinct] at hseries
    split at hseries
    · rename_i hlabel
      obtain ⟨old, hold, rfl⟩ := Option.map_eq_some_iff.1 hseries
      have hnew := countP_issue epoch hs.distinct hlabel hold
      rw [issue] at hnew
      rw [outstanding, List.countP_append, countP_tasksFrom, Series.visited_generation,
        Series.visited_inFlight, hnew]
      have hcount := h.marked label old hold
      rw [outstanding] at hcount
      rw [hcount]
      cases old.inFlight <;> rfl
    · rename_i hlabel
      have hnone := hs.generation?_eq_none hlabel
      rw [Ledger.series?_beginTick] at hseries
      simp [Ledger.generation?, hseries] at hnone
  issued t ht := by
    obtain rfl := congrArg Prod.snd issue
    rw [Poller.generations_issue, Ledger.generations_beginTick]
    rcases List.mem_append.1 ht with ht | ht
    · exact h.issued t ht
    · obtain rfl := congrArg Prod.fst issue
      obtain ⟨-, -, hgen⟩ := Poller.of_mem_issue (of_mem_tasksFrom ht).1
      exact hs.bounded _ _ hgen

theorem SingleFlight.register {s : Service} (h : s.SingleFlight) (d : Definition) :
    SingleFlight { s with poller := { s.poller with
      definitions := s.poller.definitions ++ [d]
      ledger := (s.poller.ledger.track d.label).2 } } where
  marked label series hseries := by
    rw [Ledger.series?_track] at hseries
    split at hseries
    · cases hseries
      -- The registration is new, so that no task can have been issued for it.
      apply List.countP_eq_zero.2
      intro t ht
      have hle := h.issued t ht
      simp only [Fetch.isFor, Bool.and_eq_true, decide_eq_true_eq]
      omega
    · exact h.marked label series hseries
  issued t ht := Nat.le_succ_of_le (h.issued t ht)

theorem SingleFlight.unregister {s : Service} (h : s.SingleFlight) (label : String)
    (r : Registry) :
    SingleFlight { s with poller := { s.poller with
      definitions := s.poller.definitions.eraseP (·.label = label)
      ledger := s.poller.ledger.forget label
      registry := r } } where
  marked other series hseries := by
    rw [Ledger.series?_forget] at hseries
    split at hseries
    · cases hseries
    · exact h.marked other series hseries
  issued := h.issued

theorem SingleFlight.markAsked {s : Service} (h : s.SingleFlight) (t : Task) :
    (s.markAsked t).SingleFlight where
  marked label series hseries := by
    rw [← h.marked label series hseries, outstanding, Service.markAsked, List.countP_map]
    apply List.countP_congr
    intro u _
    simp only [Function.comp_apply]
    split <;> rfl
  issued u hu := by
    obtain ⟨v, hv, rfl⟩ := List.mem_map.1 hu
    split <;> exact h.issued v hv

theorem singleFlight_fresh (c : Cadence) (r : Registry) : (fresh c r).SingleFlight where
  marked label series hseries := by simp [fresh, Ledger.series?] at hseries
  issued := nofun

theorem Step.singleFlight {s s' : Service} {a : Action} {e : Effect} (h : Step s a s' e)
    (hcoherent : s.poller.Coherent) (hnumbered : s.Numbered) (hs : s.SingleFlight) :
    s'.SingleFlight := by
  cases h with
  | register d => exact hs.register d
  | unregister d => exact hs.unregister d.label _
  | tick epoch current issue => exact hs.tick hcoherent issue
  | ask t => exact hs.markAsked t
  | close t mem => exact hs.endTask hnumbered mem
  | deliver t x mem => exact (hs.taking x).endTask (hnumbered.of_eq rfl rfl) mem
  | _ => exact hs.of_eq rfl rfl

/-- What every service keeps that began fresh. -/
structure Sound (s : Service) : Prop where
  coherent : s.poller.Coherent
  numbered : s.Numbered
  singleFlight : s.SingleFlight

theorem Step.sound {s s' : Service} {a : Action} {e : Effect} (h : Step s a s' e)
    (hs : s.Sound) : s'.Sound :=
  ⟨h.coherent hs.coherent, h.numbered hs.numbered,
    h.singleFlight hs.coherent hs.numbered hs.singleFlight⟩

theorem sound_fresh (c : Cadence) (r : Registry) : (fresh c r).Sound :=
  ⟨Poller.coherent_fresh c r, numbered_fresh c r, singleFlight_fresh c r⟩

theorem sound_run {s : Service} (hs : s.Sound) (as : List Action) : (s.run as).Sound :=
  run_induct (P := Sound) hs fun _ hs h => h.sound hs

/-- What ends a task of an earlier registration leaves the present series as it is. -/
theorem Sound.series?_of_ended_stale {s s' : Service} {a : Action} {e : Effect} (hs : s.Sound)
    (h : Step s a s' e) {t : Task} (ht : t ∈ s.tasks) {series : Series}
    (hseries : s.poller.ledger.series? t.fetch.definition.label = some series)
    (hstale : t.fetch.generation ≠ series.generation) (hended : s'.Ended t) :
    s'.poller.ledger.series? t.fetch.definition.label = some series := by
  rcases h.of_ended hs.numbered ht hended with rfl | ⟨x, ⟨-, -, hcurrent⟩, -⟩
  · change (s.poller.ledger.finishFetch _ _).series? _ = _
    rw [Ledger.series?_finishFetch, if_pos rfl, hseries, Option.map_some,
      Series.released_of_ne hstale.symm]
  · rw [Ledger.isCurrent_iff, Ledger.generation?, hseries] at hcurrent
    exact absurd (Option.some.inj hcurrent).symm hstale

theorem Sound.released_of_ended {s s' : Service} {a : Action} {e : Effect} (hs : s.Sound)
    (h : Step s a s' e) {t : Task} (ht : t ∈ s.tasks) {series : Series}
    (hseries : s.poller.ledger.series? t.fetch.definition.label = some series)
    (hpresent : t.fetch.generation = series.generation) (hended : s'.Ended t) :
    ∃ after, s'.poller.ledger.series? t.fetch.definition.label = some after ∧
      after.generation = series.generation ∧ after.inFlight = false := by
  rcases h.of_ended hs.numbered ht hended with rfl | ⟨x, ⟨hlabel, -⟩, rfl⟩
  · refine ⟨series.released t.fetch.generation, ?_, Series.released_generation _ _, ?_⟩
    · change (s.poller.ledger.finishFetch _ _).series? _ = _
      rw [Ledger.series?_finishFetch, if_pos rfl, hseries, Option.map_some]
    · rw [hpresent, Series.released_self_inFlight]
  · refine ⟨(series.taking s.poller.cadence.threshold x).released t.fetch.generation, ?_, ?_, ?_⟩
    · change (Ledger.finishFetch (s.poller.ledger.record _ _).2 _ _).series? _ = _
      rw [Ledger.series?_finishFetch, if_pos rfl, Ledger.series?_record, if_pos hlabel, hseries,
        Option.map_some, Option.map_some]
    · rw [Series.released_generation, Series.taking_generation]
    · rw [hpresent, ← Series.taking_generation s.poller.cadence.threshold x series,
        Series.released_self_inFlight]

theorem Sound.outstanding_eq_one_iff {s : Service} (hs : s.Sound) {label : String}
    {series : Series} (hseries : s.poller.ledger.series? label = some series) :
    s.outstanding label series.generation = 1 ↔ series.inFlight = true := by
  rw [hs.singleFlight.marked label series hseries]
  cases series.inFlight <;> simp

theorem Sound.exists_task_of_inFlight {s : Service} (hs : s.Sound) {label : String}
    {series : Series} (hseries : s.poller.ledger.series? label = some series)
    (hflight : series.inFlight = true) :
    ∃ t ∈ s.tasks, t.fetch.definition.label = label ∧ t.fetch.generation = series.generation := by
  have hcount := (hs.outstanding_eq_one_iff hseries).2 hflight
  obtain ⟨t, ht, hfor⟩ := List.countP_pos_iff.1 (Nat.lt_of_lt_of_eq Nat.one_pos hcount.symm)
  rw [Fetch.isFor, Bool.and_eq_true, decide_eq_true_iff, decide_eq_true_iff] at hfor
  exact ⟨t, ht, hfor⟩

/-- What the mark of a series stands for. -/
structure MarkHolds (s : Service) (label : String) (series : Series) : Prop where
  atMostOne : s.outstanding label series.generation ≤ 1
  one_iff : s.outstanding label series.generation = 1 ↔ series.inFlight = true
  /-- The end of a task of an earlier registration leaves the series as it is. -/
  stale : ∀ t ∈ s.tasks, t.fetch.definition.label = label →
    t.fetch.generation ≠ series.generation → ∀ a, (s.step a).1.Ended t →
      (s.step a).1.poller.ledger.series? label = some series
  /-- A mark has a task that clears it, whichever action ends this task, and the task can be ended. -/
  released : series.inFlight = true → ∃ t ∈ s.tasks,
    t.fetch.definition.label = label ∧ t.fetch.generation = series.generation ∧
      (∀ a, (s.step a).1.Ended t → ∃ after,
        (s.step a).1.poller.ledger.series? label = some after ∧
          after.generation = series.generation ∧ after.inFlight = false) ∧
      ∀ a, a.Settles t.number → (s.run [.ask t.number, a]).Ended t

theorem Sound.markHolds {s : Service} (hs : s.Sound) {label : String} {series : Series}
    (hseries : s.poller.ledger.series? label = some series) : s.MarkHolds label series where
  atMostOne := by
    rw [hs.singleFlight.marked label series hseries]
    exact Bool.toNat_le _
  one_iff := hs.outstanding_eq_one_iff hseries
  stale t ht hlabel hstale a hended := by
    subst hlabel
    exact hs.series?_of_ended_stale (s.step_spec a) ht hseries hstale hended
  released hflight := by
    obtain ⟨t, ht, rfl, hpresent⟩ := hs.exists_task_of_inFlight hseries hflight
    refine ⟨t, ht, rfl, hpresent, fun a hended => ?_, fun a => ended_run_ask s t⟩
    exact hs.released_of_ended (s.step_spec a) ht hseries hpresent hended

/-- In every state that a service can reach, each registered label has a series whose mark stands for
its one outstanding task, and other labels have none. -/
theorem single_flight (c : Cadence) (r : Registry) (as : List Action) (label : String) :
    (label ∈ ((fresh c r).run as).poller.definitions.map (·.label) ↔
      ∃ series, ((fresh c r).run as).poller.ledger.series? label = some series) ∧
    ∀ series, ((fresh c r).run as).poller.ledger.series? label = some series →
      ((fresh c r).run as).MarkHolds label series := by
  have hs := sound_run (sound_fresh c r) as
  constructor
  · rw [← hs.coherent.tracked, Ledger.generation?_isSome, Option.isSome_iff_exists]
  · intro series hseries
    exact hs.markHolds hseries

/-- A label that was registered anew is in flight for its second registration, while the task of the
first has not ended. -/
theorem single_flight_of_registered_anew :
    ((fresh .everySecond {}).run [.register .requests, .start true, .tick 1, .ask 0,
        .unregister "L1", .register .requests, .tick 1]).poller.ledger.series? "L1" =
        some { generation := 2, inFlight := true } ∧
      ((fresh .everySecond {}).run [.register .requests, .start true, .tick 1, .ask 0,
        .unregister "L1", .register .requests, .tick 1]).MarkHolds "L1"
          { generation := 2, inFlight := true } := by
  have hseries : ((fresh .everySecond {}).run [.register .requests, .start true, .tick 1, .ask 0,
      .unregister "L1", .register .requests, .tick 1]).poller.ledger.series? "L1" =
        some { generation := 2, inFlight := true } := by decide
  exact ⟨hseries, (single_flight .everySecond {} _ "L1").2 _ hseries⟩

end Service

end MetricWatch
