import MetricWatch.Proofs.Poll.Origin
import MetricWatch.Proofs.Poll.Samples

/-!
What subscribers hear of a registration, and what is kept of it. As long as nobody but the poller writes
to its registry, the events of a label are told by the samples that were taken in for its registration,
in the order of their arrival. Runs that begin and end meanwhile, and all other labels, do not matter.
-/

namespace MetricWatch

open Sample

namespace Service

/-- Whether an action writes to the registry past the poller. -/
def Action.Writes : Action → Prop
  | .registry (.update _) => True
  | .registry (.warn _) => True
  | .registry (.recover _) => True
  | .registry (.remove _) => True
  | _ => False

/-- The sample that an action takes in for a registration of a label, if it does: the answer to one of
the registration's own tasks, which finds both run and registration present. -/
def delivered (s : Service) (label : String) (generation : Nat) : Action → Option Sample
  | .reply number x =>
    (s.task? number true).bind fun t =>
      if s.Passes t x ∧ t.fetch.isFor label generation = true then some x else none
  | _ => none

/-- The samples that a run takes in for a registration of a label, in the order of their arrival. -/
def samples (s : Service) (label : String) (generation : Nat) (as : List Action) : List Sample :=
  (s.moments as).filterMap fun m => m.before.delivered label generation m.action

/-- What the poller tells the registry's subscribers about a label in a run. -/
def heard (s : Service) (label : String) (as : List Action) : List Event :=
  (s.moments as).flatMap fun m => m.effect.events.filter (·.label? = some label)

/-- Whether series and registry have taken in some samples for a registration of a label. -/
structure Follows (s : Service) (label : String) (generation : Nat) (xs : List Sample) : Prop where
  series : ∃ series, s.poller.ledger.series? label = some series ∧
    series.generation = generation ∧ series.Records s.poller.cadence.threshold xs
  registry : s.poller.registry.Records label xs

/-- Whether the registry knows nothing of the labels that are not registered. -/
def Clean (p : Poller) : Prop :=
  ∀ label, label ∉ p.definitions.map (·.label) → p.registry.Records label []

theorem Step.cadence_eq {s s' : Service} {a : Action} {e : Effect} (h : Step s a s' e) :
    s'.poller.cadence = s.poller.cadence := by
  cases h with
  | _ => rfl

theorem cadence_run (s : Service) (as : List Action) :
    (s.run as).poller.cadence = s.poller.cadence :=
  run_induct (P := fun s' => s'.poller.cadence = s.poller.cadence) rfl
    fun _ hs h => h.cadence_eq.trans hs

theorem records_step_of_not_writes {r : Registry} {a : Registry.Action}
    (ha : ¬ Action.Writes (.registry a)) {label : String} {xs : List Sample}
    (h : r.Records label xs) : (r.step a).registry.Records label xs := by
  cases a with
  | subscribe => exact h.of_same rfl rfl
  | unsubscribe => exact h.of_same rfl rfl
  | _ => exact absurd trivial ha

theorem Passes.mem_labels {s : Service} {t : Task} {x : Sample} (h : s.Passes t x)
    (hs : s.poller.Coherent) : x.label ∈ s.poller.definitions.map (·.label) := by
  rw [← hs.tracked, h.1, Ledger.isCurrent_iff.1 h.2.2, Option.isSome_some]

theorem Step.clean {s s' : Service} {a : Action} {e : Effect} (h : Step s a s' e)
    (hcoherent : s.poller.Coherent) (ha : ¬ a.Writes) (hs : Clean s.poller) :
    Clean s'.poller := by
  intro label hlabel
  cases h with
  | register d =>
      refine hs label fun hmem => hlabel ?_
      rw [List.map_append]
      exact List.mem_append_left _ hmem
  | unregister d =>
      by_cases hsame : d.label = label
      · subst hsame
        exact Registry.records_nil (LabelMap.get?_erase_self _ _) (LabelMap.get?_erase_self _ _)
      · refine (hs label fun hmem => hlabel ?_).remove hsame
        rw [Poller.labels_eraseP]
        exact (List.mem_erase_of_ne (Ne.symm hsame)).2 hmem
  | deliver t x mem asked passes =>
      have hne : x.label ≠ label := fun h => hlabel (h ▸ passes.mem_labels hcoherent)
      exact (hs label hlabel).taking_of_ne hne
  | registry r => exact records_step_of_not_writes ha (hs label hlabel)
  | _ => exact hs label hlabel

theorem clean_run {s : Service} {as : List Action} (hs : s.poller.Coherent)
    (hclean : Clean s.poller) (has : ∀ a ∈ as, ¬ a.Writes) : Clean (s.run as).poller :=
  (run_induct (P := fun s => s.poller.Coherent ∧ Clean s.poller) ⟨hs, hclean⟩
    fun ha hs h => ⟨h.coherent hs.1, h.clean hs.1 (has _ ha) hs.2⟩).2

theorem clean_fresh (c : Cadence) {r : Registry} (hr : r.Untouched) : Clean (fresh c r).poller := by
  intro label _
  refine Registry.records_nil ?_ ?_
  · rw [fresh, hr.newest, LabelMap.get?_empty]
  · rw [fresh, hr.latest, LabelMap.get?_empty]

theorem delivered_reply {s : Service} (hs : s.Numbered) {t : Task} {x : Sample} (ht : t ∈ s.tasks)
    (hasked : t.asked = true) (hpasses : s.Passes t x) (label : String) (generation : Nat) :
    s.delivered label generation (.reply t.number x) =
      if t.fetch.isFor label generation = true then some x else none := by
  have htask := hs.task?_of_mem ht
  rw [hasked] at htask
  simp only [delivered, htask, Option.bind_some, hpasses, true_and]

theorem delivered_of_inert {s : Service} {a : Action} (h : s.Inert a) (label : String)
    (generation : Nat) : s.delivered label generation a = none := by
  cases a with
  | reply number x =>
      have htask : s.task? number true = none := h
      rw [delivered, htask, Option.bind_none]
  | _ => rfl

theorem delivered_of_closes {s : Service} (hs : s.Numbered) {t : Task} (ht : t ∈ s.tasks)
    {a : Action} (h : s.Closes t a) (label : String) (generation : Nat) :
    s.delivered label generation a = none := by
  cases a with
  | reply number x =>
      obtain ⟨rfl, hasked, hpasses⟩ := h
      have htask := hs.task?_of_mem ht
      rw [hasked] at htask
      simp only [delivered, htask, Option.bind_some, hpasses, false_and, if_false]
  | _ => rfl

theorem Follows.of_eq {s s' : Service} {label : String} {generation : Nat} {xs : List Sample}
    (h : s.Follows label generation xs) (hcadence : s'.poller.cadence = s.poller.cadence)
    (hseries : s'.poller.ledger.series? label = s.poller.ledger.series? label)
    (hregistry : s'.poller.registry.Records label xs) : s'.Follows label generation xs where
  series := by
    rw [hcadence, hseries]
    exact h.series
  registry := hregistry

theorem Follows.of_map {s s' : Service} {label : String} {generation : Nat} {xs ys : List Sample}
    (h : s.Follows label generation xs) {f : Series → Series}
    (hcadence : s'.poller.cadence = s.poller.cadence)
    (hseries : s'.poller.ledger.series? label = (s.poller.ledger.series? label).map f)
    (hgeneration : ∀ old, (f old).generation = old.generation)
    (hrecords : ∀ old, old.Records s.poller.cadence.threshold xs →
      (f old).Records s.poller.cadence.threshold ys)
    (hregistry : s'.poller.registry.Records label ys) : s'.Follows label generation ys where
  series := by
    obtain ⟨old, hold, hgen, hrecord⟩ := h.series
    refine ⟨f old, ?_, ?_, ?_⟩
    · rw [hseries, hold, Option.map_some]
    · rw [hgeneration, hgen]
    · rw [hcadence]
      exact hrecords old hrecord
  registry := hregistry

theorem Follows.generation? {s : Service} {label : String} {generation : Nat} {xs : List Sample}
    (h : s.Follows label generation xs) :
    s.poller.ledger.generation? label = some generation := by
  obtain ⟨series, hseries, hgen, -⟩ := h.series
  rw [Ledger.generation?, hseries, Option.map_some, hgen]

theorem Follows.mem_labels {s : Service} {label : String} {generation : Nat} {xs : List Sample}
    (h : s.Follows label generation xs) (hs : s.poller.Coherent) :
    label ∈ s.poller.definitions.map (·.label) := by
  rw [← hs.tracked, h.generation?, Option.isSome_some]

theorem Follows.isFor_of_passes {s : Service} {label : String} {generation : Nat}
    {xs : List Sample} (h : s.Follows label generation xs) {t : Task} {x : Sample}
    (hpasses : s.Passes t x) : t.fetch.isFor label generation = decide (x.label = label) := by
  obtain ⟨hlabel, -, hcurrent⟩ := hpasses
  rw [Fetch.isFor, ← hlabel]
  by_cases hsame : x.label = label
  · rw [Ledger.isCurrent_iff, ← hlabel, hsame, h.generation?] at hcurrent
    simp [hsame, Option.some.inj hcurrent]
  · simp [hsame]

theorem Follows.news_eq {s : Service} {generation : Nat} {xs : List Sample} {x : Sample}
    (h : s.Follows x.label generation xs) :
    s.poller.news x = told s.poller.cadence.threshold xs x := by
  obtain ⟨series, hseries, -, hrecord⟩ := h.series
  have hchange : (s.poller.ledger.record s.poller.cadence.threshold x).1 =
      changeAfter s.poller.cadence.threshold xs x := by
    rw [Ledger.record_eq, hseries, Option.map_some, Option.getD_some, hrecord.changeOn]
  rw [Poller.news, told, hchange]
  simp only [h.registry.accepts x rfl]

theorem Follows.taking {s : Service} {generation : Nat} {xs : List Sample} {t : Task} {x : Sample}
    (h : s.Follows x.label generation xs) (hpasses : s.Passes t x) :
    (Service.endTask { s with poller := s.poller.taking x } t).Follows x.label generation
      (xs ++ [x]) := by
  refine h.of_map (f := fun old =>
    (old.taking s.poller.cadence.threshold x).released t.fetch.generation) rfl ?_ ?_ ?_ ?_
  · change (Ledger.finishFetch (s.poller.ledger.record _ x).2 _ _).series? _ = _
    rw [Ledger.series?_finishFetch, if_pos hpasses.1.symm, Ledger.series?_record, if_pos rfl,
      Option.map_map]
    rfl
  · intro old
    rw [Series.released_generation, Series.taking_generation]
  · intro old hold
    exact (hold.taking s.poller.cadence.threshold_ne_zero x).released _
  · exact h.registry.taking

theorem Follows.taking_of_ne {s : Service} {label : String} {generation : Nat} {xs : List Sample}
    (h : s.Follows label generation xs) {t : Task} {x : Sample} (hpasses : s.Passes t x)
    (hne : x.label ≠ label) :
    (Service.endTask { s with poller := s.poller.taking x } t).Follows label generation xs := by
  have hother : t.fetch.definition.label ≠ label := hpasses.1 ▸ hne
  refine h.of_eq rfl ?_ (h.registry.taking_of_ne hne)
  change (Ledger.finishFetch (s.poller.ledger.record _ x).2 _ _).series? _ = _
  rw [Ledger.series?_finishFetch, if_neg hother, Ledger.series?_record, if_neg hne]

theorem Follows.endTask {s : Service} {label : String} {generation : Nat} {xs : List Sample}
    (h : s.Follows label generation xs) (t : Task) :
    (s.endTask t).Follows label generation xs := by
  have hseries := Ledger.series?_finishFetch s.poller.ledger t.fetch.definition.label label
    t.fetch.generation
  by_cases hlabel : t.fetch.definition.label = label
  · rw [if_pos hlabel] at hseries
    exact h.of_map rfl hseries (Series.released_generation _) (fun _ hold => hold.released _)
      h.registry
  · rw [if_neg hlabel] at hseries
    exact h.of_eq rfl hseries h.registry

/-- What an action adds to the account of a registration. -/
structure Continues (s : Service) (a : Action) (s' : Service) (e : Effect) (label : String)
    (generation : Nat) (xs : List Sample) : Prop where
  follows : s'.Follows label generation (xs ++ (s.delivered label generation a).toList)
  heard : e.events.filter (·.label? = some label) =
    (s.delivered label generation a).toList.flatMap (told s.poller.cadence.threshold xs)

theorem Follows.continues_of_none {s s' : Service} {a : Action} {e : Effect} {label : String}
    {generation : Nat} {xs : List Sample} (h : s'.Follows label generation xs)
    (hdelivered : s.delivered label generation a = none) (hevents : e.events = []) :
    Continues s a s' e label generation xs where
  follows := by
    rw [hdelivered, Option.toList_none, List.append_nil]
    exact h
  heard := by
    rw [hdelivered, hevents]
    rfl

theorem Follows.continues_deliver {s : Service} {label : String} {generation : Nat}
    {xs : List Sample} (h : s.Follows label generation xs) (hs : s.Numbered) {t : Task} {x : Sample}
    (ht : t ∈ s.tasks) (hasked : t.asked = true) (hpasses : s.Passes t x) {e : Effect}
    (hevents : e.events = s.poller.news x) :
    Continues s (.reply t.number x) (Service.endTask { s with poller := s.poller.taking x } t) e
      label generation xs := by
  have hdelivered := delivered_reply hs ht hasked hpasses label generation
  rw [h.isFor_of_passes hpasses] at hdelivered
  -- A sample that passes is for the registration just when it is of the label.
  by_cases hlabel : x.label = label
  · subst hlabel
    rw [decide_eq_true rfl, if_pos rfl] at hdelivered
    constructor
    · rw [hdelivered, Option.toList_some]
      exact h.taking hpasses
    · have hall : ∀ event ∈ s.poller.news x, decide (event.label? = some x.label) = true :=
        fun event hevent => decide_eq_true (Poller.label?_of_mem_news hevent)
      rw [hdelivered, Option.toList_some, List.flatMap_singleton, hevents,
        List.filter_eq_self.2 hall, h.news_eq]
  · rw [decide_eq_false hlabel, if_neg Bool.false_ne_true] at hdelivered
    constructor
    · rw [hdelivered, Option.toList_none, List.append_nil]
      exact h.taking_of_ne hpasses hlabel
    · rw [hdelivered, Option.toList_none, List.flatMap_nil, hevents, List.filter_eq_nil_iff]
      intro event hevent
      rw [Poller.label?_of_mem_news hevent]
      simpa using hlabel

/-- One step for the account of a registration: an action that leaves registration and registry alone
either takes in one sample, of which just what is due is heard, or changes nothing. -/
theorem Step.continues {s s' : Service} {a : Action} {e : Effect} (h : Step s a s' e)
    (hs : s.Sound) {label : String} {generation : Nat} {xs : List Sample}
    (hfollows : s.Follows label generation xs) (hwrites : ¬ a.Writes)
    (hkept : a ≠ .unregister label) : Continues s a s' e label generation xs := by
  cases h with
  | inert answer h =>
      exact hfollows.continues_of_none (delivered_of_inert h label generation) rfl
  | register d new =>
      have hne : d.label ≠ label := fun h => new (h ▸ hfollows.mem_labels hs.coherent)
      refine Follows.continues_of_none ?_ rfl rfl
      refine hfollows.of_eq rfl ?_ hfollows.registry
      exact (Ledger.series?_track _ _ _).trans (if_neg hne)
  | unregister d =>
      have hne : d.label ≠ label := fun h => hkept (h ▸ rfl)
      refine Follows.continues_of_none ?_ rfl rfl
      refine hfollows.of_eq rfl ?_ (hfollows.registry.remove hne)
      exact (Ledger.series?_forget _ _ _).trans (if_neg hne)
  | start =>
      refine Follows.continues_of_none ?_ rfl rfl
      exact hfollows.of_eq rfl rfl hfollows.registry
  | stop =>
      refine Follows.continues_of_none ?_ rfl rfl
      exact hfollows.of_eq rfl rfl hfollows.registry
  | tick epoch current issue =>
      obtain rfl := congrArg Prod.snd issue
      refine Follows.continues_of_none ?_ rfl rfl
      refine hfollows.of_map rfl ?_ Series.visited_generation (fun _ hold => hold.visited)
        hfollows.registry
      exact (Poller.series?_issue _ label hs.coherent.distinct).trans
        (if_pos (hfollows.mem_labels hs.coherent))
  | ask =>
      refine Follows.continues_of_none ?_ rfl rfl
      exact hfollows.of_eq rfl rfl hfollows.registry
  | close t mem closes =>
      exact (hfollows.endTask t).continues_of_none
        (delivered_of_closes hs.numbered mem closes label generation) rfl
  | deliver t x mem asked passes =>
      exact hfollows.continues_deliver hs.numbered mem asked passes rfl
  | registry r =>
      refine Follows.continues_of_none ?_ rfl rfl
      exact hfollows.of_eq rfl rfl (records_step_of_not_writes hwrites hfollows.registry)

theorem samples_concat (s : Service) (label : String) (generation : Nat) (as : List Action)
    (a : Action) :
    s.samples label generation (as ++ [a]) =
      s.samples label generation as ++ ((s.run as).delivered label generation a).toList := by
  rw [samples, moments_concat, List.filterMap_append, samples]
  congr 1

theorem heard_concat (s : Service) (label : String) (as : List Action) (a : Action) :
    s.heard label (as ++ [a]) = s.heard label as ++
      ((s.run as).step a).2.events.filter (·.label? = some label) := by
  rw [heard, moments_concat, List.flatMap_append, List.flatMap_singleton]
  rfl

/-- Along a run that keeps a registration, its samples account for all that is heard and kept of it. -/
theorem follows_run {s : Service} (hs : s.Sound) {label : String} {generation : Nat}
    (hfollows : s.Follows label generation []) {as : List Action} (hwrites : ∀ a ∈ as, ¬ a.Writes)
    (hkept : .unregister label ∉ as) :
    (s.run as).Follows label generation (s.samples label generation as) ∧
      s.heard label as = stream s.poller.cadence.threshold (s.samples label generation as) := by
  induction as using List.reverseRecOn with
  | nil => exact ⟨hfollows, rfl⟩
  | append_singleton as a ih =>
      rw [List.forall_mem_append, List.forall_mem_singleton] at hwrites
      rw [List.mem_append, List.mem_singleton, not_or] at hkept
      obtain ⟨hrun, hheard⟩ := ih hwrites.1 hkept.1
      obtain ⟨hnext, hevents⟩ := ((s.run as).step_spec a).continues (sound_run hs as) hrun
        hwrites.2 (Ne.symm hkept.2)
      rw [samples_concat, run_concat, heard_concat]
      refine ⟨hnext, ?_⟩
      rw [hevents, hheard, cadence_run]
      cases (s.run as).delivered label generation a with
      | none => rw [Option.toList_none, List.flatMap_nil, List.append_nil, List.append_nil]
      | some x => rw [Option.toList_some, List.flatMap_singleton, stream_concat]

theorem RegisteredAt.follows {c : Cadence} {r : Registry} {before : List Action} {d : Definition}
    {generation : Nat} (h : RegisteredAt (fresh c r) before d generation) (hr : r.Untouched)
    (hwrites : ∀ a ∈ before, ¬ a.Writes) :
    ((fresh c r).run (before ++ [.register d])).Follows d.label generation [] := by
  have hclean := clean_run (sound_fresh c r).coherent (clean_fresh c hr) hwrites
  have new := new_of_accepted h.accepted
  have hgen := h.generation_eq
  rw [step_register_of_new new] at hgen
  subst hgen
  rw [run_concat, step_register_of_new new]
  constructor
  · refine ⟨_, (Ledger.series?_track _ _ _).trans (if_pos rfl), rfl, ?_⟩
    exact Series.records_nil ((fresh c r).run before).poller.cadence.threshold_ne_zero _
  · exact hclean d.label new

/-- What reaches single subscribers about a label is what the poller tells of it, to each of them. -/
theorem Step.deliveries_eq {s s' : Service} {a : Action} {e : Effect} (h : Step s a s' e)
    (hwrites : ¬ a.Writes) (label : String) :
    e.deliveries.filter (·.event.label? = some label) =
      (e.events.filter (·.label? = some label)).flatMap fun event =>
        s.poller.registry.subscribers.map fun subscription => { subscription, event } := by
  cases h with
  | deliver t x =>
      -- Taking the sample in leaves the subscribers as they are.
      have hbroadcast : (s.poller.taking x).registry.broadcast = fun event =>
          s.poller.registry.subscribers.map fun subscription => { subscription, event } := by
        funext event
        unfold Poller.taking Registry.taking Registry.broadcast Registry.record
        split <;> rfl
      simp only [hbroadcast]
      induction s.poller.news x with
      | nil => rfl
      | cons event events ih =>
          rw [List.flatMap_cons, List.filter_append, ih, List.filter_cons, List.filter_map]
          by_cases hlabel : event.label? = some label <;> simp [hlabel, Function.comp_def]
  | registry r =>
      cases r with
      | subscribe => rfl
      | unsubscribe => rfl
      | _ => exact absurd trivial hwrites
  | _ => rfl

/-- From its registration on, what is heard of a label is what its samples tell, in the order of their
arrival, and each event goes once to each of those who are subscribed at the time. -/
theorem heard_eq_stream (c : Cadence) {r : Registry} (hr : r.Untouched)
    {before during : List Action} {d : Definition} {generation : Nat}
    (hregistered : RegisteredAt (fresh c r) before d generation)
    (hkept : .unregister d.label ∉ during)
    (hwrites : ∀ a ∈ before ++ .register d :: during, ¬ a.Writes) :
    ((fresh c r).run (before ++ [.register d])).heard d.label during =
        stream c.threshold
          (((fresh c r).run (before ++ [.register d])).samples d.label generation during) ∧
      ∀ m ∈ ((fresh c r).run (before ++ [.register d])).moments during,
        m.effect.deliveries.filter (·.event.label? = some d.label) =
          (m.effect.events.filter (·.label? = some d.label)).flatMap fun event =>
            m.before.poller.registry.subscribers.map fun subscription => { subscription, event } := by
  rw [List.forall_mem_append, List.forall_mem_cons] at hwrites
  obtain ⟨hbefore, -, hduring⟩ := hwrites
  constructor
  · have hsound := sound_run (sound_fresh c r) (before ++ [.register d])
    have hheard := (follows_run hsound (hregistered.follows hr hbefore) hduring hkept).2
    rw [cadence_run] at hheard
    exact hheard
  · intro m hm
    exact (m.before.step_spec m.action).deliveries_eq (hduring _ (action_mem_of_mem_moments hm))
      d.label

/-- Samples of one definition, of which the third is older than the second. -/
def outOfOrder : List Action :=
  (feeding .requests [.failed "L1" 3 "timeout", .failed "L1" 5 "refused", .ok "L1" 4 1,
    .ok "L1" 9 2]).tail

/-- What is heard of them: the second failure degrades the label, and the older sample is not heard of
but lets the label recover. -/
def heardOutOfOrder : List Event :=
  [.sample (.failed "L1" 3 "timeout"), .sample (.failed "L1" 5 "refused"),
    .degraded { label := "L1", failures := 2, lastError := some "refused", timestamp := 5 },
    .recovered "L1", .sample (.ok "L1" 9 2)]

theorem heard_eq_stream_out_of_order :
    RegisteredAt (fresh .everySecond {}) [.registry .subscribe] .requests 1 ∧
      ((fresh .everySecond {}).run [.registry .subscribe, .register .requests]).heard "L1"
        outOfOrder = heardOutOfOrder ∧
      (((fresh .everySecond {}).run [.registry .subscribe, .register .requests]).moments
          outOfOrder).flatMap (·.effect.deliveries.filter (·.event.label? = some "L1")) =
        heardOutOfOrder.map fun event => { subscription := ⟨0⟩, event } := by
  have hregistered : RegisteredAt (fresh .everySecond {}) [.registry .subscribe] .requests 1 :=
    ⟨rfl, rfl, by decide⟩
  have hwrites : ∀ a ∈ [.registry .subscribe] ++ .register .requests :: outOfOrder,
      ¬ a.Writes := by
    simp [outOfOrder, feeding, Action.Writes]
  have hheard := heard_eq_stream .everySecond (r := {}) ⟨rfl, rfl⟩ hregistered
    (by simp [outOfOrder, feeding]) hwrites
  refine ⟨hregistered, hheard.1.trans rfl, ?_⟩
  exact (List.flatMap_congr hheard.2).trans rfl

end Service

end MetricWatch
