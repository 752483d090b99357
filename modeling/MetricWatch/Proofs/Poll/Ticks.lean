import MetricWatch.Proofs.Poll.Origin

/-!
The account of ticks. Every tick that takes effect is counted once, and for each registered label it
either issues a fetch or is skipped; what happens to the fetches meanwhile does not matter.
-/

namespace MetricWatch

namespace Series

theorem visited_skipped (s : Series) : s.visited.skipped = s.skipped + s.inFlight.toNat := by
  unfold visited
  cases s.inFlight <;> rfl

@[simp] theorem taking_skipped (threshold : UInt32) (x : Sample) (s : Series) :
    (s.taking threshold x).skipped = s.skipped := by
  unfold taking
  split <;> rfl

@[simp] theorem released_skipped (generation : Nat) (s : Series) :
    (s.released generation).skipped = s.skipped := by
  unfold released
  split <;> rfl

end Series

namespace Poller

theorem ticks_issue (epoch : Nat) (ds : List Definition) (l : Ledger) :
    (issue epoch ds l).2.ticks = l.ticks := by
  induction ds generalizing l with
  | nil => rfl
  | cons d ds ih => rw [issue_cons, ih, Ledger.ticks_alter]

end Poller

namespace Service

/-- Whether an action is a tick that takes effect: one of the run that goes on. -/
def Moment.ticks (m : Moment) : Bool :=
  match m.action with
  | .tick epoch => m.before.poller.isCurrent epoch
  | _ => false

def ticks (s : Service) (as : List Action) : Nat := (s.moments as).countP Moment.ticks

/-- How many fetches a run issues for a registration of a label. -/
def fetches (s : Service) (label : String) (generation : Nat) (as : List Action) : Nat :=
  ((s.moments as).flatMap (·.effect.issued)).countP fun t => t.fetch.isFor label generation

theorem ticks_concat (s : Service) (as : List Action) (a : Action) :
    s.ticks (as ++ [a]) = s.ticks as + (Moment.ticks ⟨s.run as, a⟩).toNat := by
  rw [ticks, moments_concat, List.countP_append, ticks, List.countP_singleton]
  cases Moment.ticks ⟨s.run as, a⟩ <;> rfl

theorem fetches_concat (s : Service) (label : String) (generation : Nat) (as : List Action)
    (a : Action) :
    s.fetches label generation (as ++ [a]) = s.fetches label generation as +
      ((s.run as).step a).2.issued.countP fun t => t.fetch.isFor label generation := by
  rw [fetches, moments_concat, List.flatMap_append, List.flatMap_singleton, List.countP_append]
  rfl

theorem fetches_append (s : Service) (label : String) (generation : Nat) (as bs : List Action) :
    s.fetches label generation (as ++ bs) =
      s.fetches label generation as + (s.run as).fetches label generation bs := by
  rw [fetches, moments_append, List.flatMap_append, List.countP_append]
  rfl

variable {s s' : Service} {a : Action} {e : Effect}

theorem ticks_of_inert (h : s.Inert a) : Moment.ticks ⟨s, a⟩ = false := by
  cases a with
  | tick epoch => exact h
  | _ => rfl

theorem ticks_of_closes {t : Task} (h : s.Closes t a) : Moment.ticks ⟨s, a⟩ = false := by
  cases a with
  | tick => exact h.elim
  | _ => rfl

theorem Step.ticks_eq (h : Step s a s' e) :
    s'.poller.ledger.ticks = s.poller.ledger.ticks + (Moment.ticks ⟨s, a⟩).toNat := by
  cases h with
  | inert answer h => rw [ticks_of_inert h, Bool.toNat_false, Nat.add_zero]
  | tick epoch current issue =>
      have hticks : Moment.ticks ⟨s, .tick epoch⟩ = true := current
      obtain rfl := congrArg Prod.snd issue
      rw [hticks]
      exact Poller.ticks_issue _ _ _
  | close t mem closes =>
      rw [ticks_of_closes closes]
      exact Ledger.ticks_alter _ _ _
  | deliver t x =>
      change (Ledger.finishFetch (s.poller.ledger.record _ _).2 _ _).ticks = _
      rw [Ledger.record_eq]
      exact (Ledger.ticks_alter _ _ _).trans (Ledger.ticks_alter _ _ _)
  | _ => rfl

/-- What an action adds to the account of a registered label: a tick that takes effect issues one fetch
or is skipped, and nothing else counts. -/
def Accounts (s : Service) (a : Action) (s' : Service) (e : Effect) (label : String)
    (series : Series) : Prop :=
  ∃ after, s'.poller.ledger.series? label = some after ∧ after.generation = series.generation ∧
    (e.issued.countP fun t => t.fetch.isFor label series.generation) + after.skipped =
      series.skipped + (Moment.ticks ⟨s, a⟩).toNat

section accounts

variable {label : String} {series : Series}
  (hseries : s.poller.ledger.series? label = some series) (hissued : e.issued = [])
  (hticks : Moment.ticks ⟨s, a⟩ = false)

include hseries hissued hticks

theorem accounts_of_map {f : Series → Series}
    (hmap : s'.poller.ledger.series? label = (s.poller.ledger.series? label).map f)
    (hgeneration : (f series).generation = series.generation)
    (hskipped : (f series).skipped = series.skipped) : Accounts s a s' e label series := by
  refine ⟨f series, ?_, hgeneration, ?_⟩
  · rw [hmap, hseries, Option.map_some]
  · rw [hissued, hticks, hskipped]
    exact Nat.zero_add _

theorem accounts_of_eq
    (hsame : s'.poller.ledger.series? label = s.poller.ledger.series? label) :
    Accounts s a s' e label series :=
  accounts_of_map hseries hissued hticks (f := id) (by rw [hsame, Option.map_id, id]) rfl rfl

end accounts

theorem Step.accounts (h : Step s a s' e) (hs : s.poller.Coherent) {label : String}
    {series : Series} (hseries : s.poller.ledger.series? label = some series)
    (hkept : a ≠ .unregister label) : Accounts s a s' e label series := by
  have hlabel : label ∈ s.poller.definitions.map (·.label) := by
    rw [← hs.tracked, Ledger.generation?_isSome, hseries, Option.isSome_some]
  cases h with
  | inert answer h => exact accounts_of_eq hseries rfl (ticks_of_inert h) rfl
  | register d new =>
      have hne : d.label ≠ label := fun h => new (h ▸ hlabel)
      exact accounts_of_eq hseries rfl rfl ((Ledger.series?_track _ _ _).trans (if_neg hne))
  | unregister d =>
      have hne : d.label ≠ label := fun h => hkept (h ▸ rfl)
      exact accounts_of_eq hseries rfl rfl ((Ledger.series?_forget _ _ _).trans (if_neg hne))
  | start => exact accounts_of_eq hseries rfl rfl rfl
  | stop => exact accounts_of_eq hseries rfl rfl rfl
  | tick epoch current issue =>
      have hticks : Moment.ticks ⟨s, .tick epoch⟩ = true := current
      have hnew := countP_issue epoch (l := s.poller.ledger.beginTick) hs.distinct hlabel hseries
      rw [issue] at hnew
      obtain rfl := congrArg Prod.snd issue
      refine ⟨series.visited, ?_, series.visited_generation, ?_⟩
      · refine (Poller.series?_issue _ label hs.distinct).trans ?_
        rw [if_pos hlabel, Ledger.series?_beginTick, hseries, Option.map_some]
      · -- No label is defined twice, so that the tick visits the series once.
        rw [countP_tasksFrom, hnew, Series.visited_skipped, hticks]
        cases series.inFlight with
        | false => exact Nat.add_comm _ _
        | true => exact Nat.zero_add _
  | ask => exact accounts_of_eq hseries rfl rfl rfl
  | close t mem closes =>
      have hticks := ticks_of_closes closes
      have hafter := Ledger.series?_finishFetch s.poller.ledger t.fetch.definition.label label
        t.fetch.generation
      split at hafter
      · exact accounts_of_map hseries rfl hticks hafter (Series.released_generation _ _)
          (Series.released_skipped _ _)
      · exact accounts_of_eq hseries rfl hticks hafter
  | deliver t x mem asked passes =>
      have hafter : ((s.poller.ledger.record s.poller.cadence.threshold x).2.finishFetch
          t.fetch.definition.label t.fetch.generation).series? label =
            if x.label = label then (s.poller.ledger.series? label).map
              (Series.released t.fetch.generation ∘ Series.taking s.poller.cadence.threshold x)
            else s.poller.ledger.series? label := by
        rw [Ledger.series?_finishFetch, ← passes.1, Ledger.series?_record]
        split
        · rw [Option.map_map]
        · rfl
      split at hafter
      · refine accounts_of_map hseries rfl rfl hafter ?_ ?_
        · exact (Series.released_generation _ _).trans (Series.taking_generation _ _ _)
        · exact (Series.released_skipped _ _).trans (Series.taking_skipped _ _ _)
      · exact accounts_of_eq hseries rfl rfl hafter
  | registry => exact accounts_of_eq hseries rfl rfl rfl

/-- Along a run that keeps a registration, each tick that takes effect issues a fetch for it or is
skipped. -/
theorem accounts_run {s : Service} (hs : s.Sound) {label : String} {series : Series}
    (hseries : s.poller.ledger.series? label = some series) {as : List Action}
    (hkept : .unregister label ∉ as) :
    ∃ after, (s.run as).poller.ledger.series? label = some after ∧
      after.generation = series.generation ∧
      s.fetches label series.generation as + after.skipped = series.skipped + s.ticks as := by
  induction as using List.reverseRecOn with
  | nil => exact ⟨series, hseries, rfl, Nat.zero_add _⟩
  | append_singleton as a ih =>
      rw [List.mem_append, List.mem_singleton, not_or] at hkept
      obtain ⟨middle, hmiddle, hgeneration, hcount⟩ := ih hkept.1
      obtain ⟨after, hafter, hsame, hstep⟩ := ((s.run as).step_spec a).accounts
        (sound_run hs as).coherent hmiddle (Ne.symm hkept.2)
      rw [hgeneration] at hsame hstep
      refine ⟨after, ?_, hsame, ?_⟩
      · rw [run_concat, hafter]
      · rw [fetches_concat, ticks_concat]
        omega

theorem ticks_run (c : Cadence) (r : Registry) (as : List Action) :
    ((fresh c r).run as).poller.ledger.ticks = (fresh c r).ticks as := by
  induction as using List.reverseRecOn with
  | nil => rfl
  | append_singleton as a ih =>
      rw [run_concat, (((fresh c r).run as).step_spec a).ticks_eq, ih, ticks_concat]

theorem fetches_eq_zero {c : Cadence} {r : Registry} {as : List Action} {label : String}
    {generation : Nat} (h : ((fresh c r).run as).poller.ledger.generations < generation) :
    (fresh c r).fetches label generation as = 0 := by
  induction as using List.reverseRecOn with
  | nil => rfl
  | append_singleton as a ih =>
      have hstep := ((fresh c r).run as).step_spec a
      rw [run_concat] at h
      have hbefore := Nat.lt_of_le_of_lt hstep.generations_le h
      rw [fetches_concat, ih hbefore, Nat.zero_add, List.countP_eq_zero]
      intro t ht hfor
      rw [Fetch.isFor, Bool.and_eq_true, decide_eq_true_iff, decide_eq_true_iff] at hfor
      obtain ⟨-, -, -, hgen⟩ := hstep.of_mem_issued ht
      -- A fetch is for a registration that is known, and this one is yet to come.
      have hle := (coherent_run (sound_fresh c r).coherent as).bounded _ _ hgen
      omega

theorem step_tick_of_over {s : Service} {epoch : Nat}
    (h : s.poller.isCurrent epoch = false) : s.step (.tick epoch) = (s, {}) := by
  change s.tick epoch = _
  rw [tick, Poller.tick, if_neg (Bool.eq_false_iff.1 h)]
  simp only [tasksFrom, List.append_nil, List.length_nil, Nat.add_zero]

namespace RegisteredAt

variable {c : Cadence} {r : Registry} {before : List Action} {d : Definition} {generation : Nat}

theorem generation_eq_succ {s₀ : Service} (h : RegisteredAt s₀ before d generation) :
    generation = (s₀.run before).poller.ledger.generations + 1 := by
  have hgen := h.generation_eq
  rw [step_register_of_new (new_of_accepted h.accepted)] at hgen
  exact hgen

theorem series_eq {s₀ : Service} (h : RegisteredAt s₀ before d generation) :
    (s₀.run (before ++ [.register d])).poller.ledger.series? d.label = some { generation } := by
  rw [run_concat, step_register_of_new (new_of_accepted h.accepted), h.generation_eq_succ]
  exact (Ledger.series?_track _ _ _).trans (if_pos rfl)

theorem fetches_eq_zero (h : RegisteredAt (fresh c r) before d generation) (label : String) :
    (fresh c r).fetches label generation (before ++ [.register d]) = 0 := by
  have hbefore := Nat.lt_of_lt_of_eq (Nat.lt_succ_self _) h.generation_eq_succ.symm
  rw [fetches_concat, Service.fetches_eq_zero hbefore,
    step_register_of_new (new_of_accepted h.accepted)]
  rfl

end RegisteredAt

/-- In every state that a service can reach, all ticks that took effect are counted, and for each
registered definition those since its registration are the fetches that were issued for it and the ticks
that were skipped. Other ticks change nothing. -/
theorem ticks_accounted (c : Cadence) (r : Registry) (as : List Action) :
    ((fresh c r).run as).poller.ledger.ticks = (fresh c r).ticks as ∧
      (∀ d ∈ ((fresh c r).run as).poller.definitions, ∃ series before since,
        ((fresh c r).run as).poller.ledger.series? d.label = some series ∧
          as = before ++ .register d :: since ∧
          RegisteredAt (fresh c r) before d series.generation ∧ .unregister d.label ∉ since ∧
          (fresh c r).fetches d.label series.generation as + series.skipped =
            ((fresh c r).run (before ++ [.register d])).ticks since) ∧
      ∀ epoch, ((fresh c r).run as).poller.isCurrent epoch = false →
        ((fresh c r).run as).step (.tick epoch) = ((fresh c r).run as, {}) := by
  refine ⟨ticks_run c r as, ?_, fun epoch => step_tick_of_over⟩
  intro d hd
  obtain ⟨before, since, generation, rfl, hregistered, hkept⟩ := exists_registration c r as hd
  have hsound := sound_run (sound_fresh c r) (before ++ [.register d])
  obtain ⟨series, hseries, rfl, hcount⟩ := accounts_run hsound hregistered.series_eq hkept
  refine ⟨series, before, since, ?_, rfl, hregistered, hkept, ?_⟩
  · rw [run_append_cons, hseries]
  · have hfetches := fetches_append (fresh c r) d.label series.generation
      (before ++ [.register d]) since
    rw [hregistered.fetches_eq_zero, Nat.zero_add, List.append_assoc, List.singleton_append]
      at hfetches
    rw [hfetches, hcount]
    exact Nat.zero_add _

/-- A tick before the registration, one that issues a fetch, and one that is skipped in the next run
because that fetch has not ended. The tick of the run that was stopped is not counted. -/
def lateRegistration : List Action :=
  [.start true, .tick 1, .register .requests, .tick 1, .ask 0, .stop, .start true, .tick 1, .tick 2]

theorem ticks_accounted_lateRegistration :
    (fresh .everySecond {}).ticks lateRegistration = 3 ∧
      ((fresh .everySecond {}).run lateRegistration).poller.ledger.ticks = 3 ∧
      ∃ series before since,
        ((fresh .everySecond {}).run lateRegistration).poller.ledger.series? "L1" = some series ∧
          series.skipped = 1 ∧ lateRegistration = before ++ .register .requests :: since ∧
          (fresh .everySecond {}).fetches "L1" series.generation lateRegistration = 1 ∧
          ((fresh .everySecond {}).run (before ++ [.register .requests])).ticks since = 2 := by
  obtain ⟨hticks, hseries, -⟩ := ticks_accounted .everySecond {} lateRegistration
  obtain ⟨series, before, since, hsome, heq, -, -, hcount⟩ := hseries .requests (by decide)
  obtain rfl : { generation := 1, skipped := 1, inFlight := true } = series :=
    Option.some.inj ((by decide : _ = some _).symm.trans hsome)
  have hfetches : (fresh .everySecond {}).fetches "L1" 1 lateRegistration = 1 := by decide
  refine ⟨by decide, hticks.trans (by decide), _, before, since, hsome, rfl, heq, hfetches, ?_⟩
  exact hcount.symm.trans (congrArg (· + 1) hfetches)

end Service

end MetricWatch
