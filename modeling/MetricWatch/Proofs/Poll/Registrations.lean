import MetricWatch.Proofs.Poll.Origin

/-!
The table of definitions over a whole run. It holds the definitions that were registered and not taken
off since, in the order of their registration. The ledger knows each of them under the number that its
registration has among all registrations of the run.
-/

namespace MetricWatch

namespace Service

/-- The definition that is registered at a moment, if one is. -/
def Moment.registered? (m : Moment) : Option Definition :=
  match m.action, m.effect.answer with
  | .register d, .outcome (.ok ()) => some d
  | _, _ => none

def Action.takesOff (label : String) : Action → Bool
  | .unregister other => other = label
  | _ => false

/-- The definitions that a run registers, in order, whatever becomes of them. -/
def registrations (s : Service) (as : List Action) : List Definition :=
  (s.moments as).filterMap Moment.registered?

/-- The definitions that a run registers and does not take off afterwards, in order. -/
def standing (s : Service) : List Action → List Definition
  | [] => []
  | a :: as =>
    (Moment.registered? ⟨s, a⟩).toList.filter (fun d => !as.any (Action.takesOff d.label)) ++
      (s.step a).1.standing as

variable {s s' : Service} {a : Action} {e : Effect} {d : Definition}

theorem registered?_of_new (new : d.label ∉ s.poller.definitions.map (·.label)) :
    Moment.registered? ⟨s, .register d⟩ = some d := by
  simp only [Moment.registered?, Moment.effect, step_register_of_new new]

theorem registered?_eq_some_iff :
    Moment.registered? ⟨s, a⟩ = some d ↔
      a = .register d ∧ d.label ∉ s.poller.definitions.map (·.label) := by
  constructor
  · intro h
    unfold Moment.registered? at h
    split at h
    · rename_i d' haction hanswer
      obtain rfl := Option.some.inj h
      obtain rfl : a = .register d' := haction
      exact ⟨rfl, new_of_accepted hanswer⟩
    · cases h
  · rintro ⟨rfl, new⟩
    exact registered?_of_new new

theorem registered?_eq_none (h : ∀ d, a = .register d → s.poller.registered d.label = true) :
    Moment.registered? ⟨s, a⟩ = none := by
  apply Option.eq_none_iff_forall_ne_some.2
  intro d hd
  obtain ⟨ha, new⟩ := registered?_eq_some_iff.1 hd
  exact new (Poller.registered_iff.1 (h d ha))

theorem standing_concat (s : Service) (as : List Action) (a : Action) :
    s.standing (as ++ [a]) =
      (s.standing as).filter (fun d => !a.takesOff d.label) ++
        (Moment.registered? ⟨s.run as, a⟩).toList := by
  induction as generalizing s with
  | nil => simp [standing]
  | cons b as ih =>
      rw [List.cons_append, standing, ih, standing, List.filter_append, List.append_assoc,
        List.filter_filter, run_cons]
      simp [Bool.and_comm]

theorem registrations_concat (s : Service) (as : List Action) (a : Action) :
    s.registrations (as ++ [a]) =
      s.registrations as ++ (Moment.registered? ⟨s.run as, a⟩).toList := by
  rw [registrations, moments_concat, List.filterMap_append, registrations]
  cases h : Moment.registered? ⟨s.run as, a⟩ <;> simp [h]

theorem registrations_append (s : Service) (as bs : List Action) :
    s.registrations (as ++ bs) = s.registrations as ++ (s.run as).registrations bs := by
  rw [registrations, moments_append, List.filterMap_append]
  rfl

theorem eraseP_label_eq_filter {ds : List Definition} (h : (ds.map (·.label)).Nodup)
    (label : String) :
    ds.eraseP (·.label = label) = ds.filter (fun d => !decide (label = d.label)) := by
  induction ds with
  | nil => rfl
  | cons d ds ih =>
      obtain ⟨hd, hrest⟩ := List.nodup_cons.1 h
      by_cases hlabel : d.label = label
      · subst hlabel
        -- The first definition of the label is the only one.
        have hall : ∀ e ∈ ds, (!decide (d.label = e.label)) = true := by
          intro e he
          simpa using fun hsame => hd (List.mem_map.2 ⟨e, he, hsame.symm⟩)
        simp [List.filter_eq_self.2 hall]
      · simp [hlabel, Ne.symm hlabel, ih hrest]

theorem registered?_of_inert (h : s.Inert a) : Moment.registered? ⟨s, a⟩ = none := by
  apply registered?_eq_none
  rintro d rfl
  exact h

theorem registered?_of_closes {t : Task} (h : s.Closes t a) :
    Moment.registered? ⟨s, a⟩ = none := by
  apply registered?_eq_none
  rintro d rfl
  exact h.elim

theorem takesOff_of_inert (h : s.Inert a) (hd : d ∈ s.poller.definitions) :
    a.takesOff d.label = false := by
  cases a with
  | unregister label =>
      have hlabel := Poller.registered_eq_false_iff.1 h
      exact decide_eq_false fun hsame => hlabel (List.mem_map.2 ⟨d, hd, hsame.symm⟩)
  | _ => rfl

theorem takesOff_of_closes {t : Task} (h : s.Closes t a) (label : String) :
    a.takesOff label = false := by
  cases a with
  | unregister => exact h.elim
  | _ => rfl

/-- What a step makes of the table: it takes off what it is asked to, and adds what it registers. -/
theorem Step.definitions_eq (h : Step s a s' e) (hs : s.poller.Coherent) :
    s'.poller.definitions =
      s.poller.definitions.filter (fun d => !a.takesOff d.label) ++
        (Moment.registered? ⟨s, a⟩).toList := by
  have hkept (hnone : Moment.registered? ⟨s, a⟩ = none)
      (ha : ∀ d ∈ s.poller.definitions, a.takesOff d.label = false) :
      s.poller.definitions = s.poller.definitions.filter (fun d => !a.takesOff d.label) ++
        (Moment.registered? ⟨s, a⟩).toList := by
    rw [hnone, Option.toList_none, List.append_nil, List.filter_eq_self.2]
    intro d hd
    rw [ha d hd, Bool.not_false]
  cases h with
  | inert answer h => exact hkept (registered?_of_inert h) fun _ => takesOff_of_inert h
  | register d new =>
      rw [registered?_of_new new, Option.toList_some, List.filter_eq_self.2]
      intro _ _
      rfl
  | unregister d =>
      have hnone : Moment.registered? ⟨s, .unregister d.label⟩ = none := rfl
      rw [hnone, Option.toList_none, List.append_nil]
      exact eraseP_label_eq_filter hs.distinct d.label
  | close t mem closes =>
      exact hkept (registered?_of_closes closes) fun d _ => takesOff_of_closes closes d.label
  | _ => exact hkept rfl fun _ _ => rfl

theorem Step.generations_eq (h : Step s a s' e) :
    s'.poller.ledger.generations =
      s.poller.ledger.generations + (Moment.registered? ⟨s, a⟩).toList.length := by
  cases h with
  | inert answer h => rw [registered?_of_inert h]; rfl
  | register d new => rw [registered?_of_new new]; rfl
  | tick epoch current issue =>
      obtain rfl := congrArg Prod.snd issue
      exact Poller.generations_issue _ _ _
  | close t mem closes =>
      rw [registered?_of_closes closes]
      exact Ledger.generations_finishFetch _ _ _
  | deliver t x =>
      exact (Ledger.generations_finishFetch _ _ _).trans (Ledger.generations_record _ _ _)
  | _ => rfl

theorem definitions_run (c : Cadence) (r : Registry) (as : List Action) :
    ((fresh c r).run as).poller.definitions = (fresh c r).standing as := by
  induction as using List.reverseRecOn with
  | nil => rfl
  | append_singleton as a ih =>
      have hcoherent := coherent_run (sound_fresh c r).coherent as
      rw [run_concat, (((fresh c r).run as).step_spec a).definitions_eq hcoherent, ih,
        standing_concat]

theorem generations_run (c : Cadence) (r : Registry) (as : List Action) :
    ((fresh c r).run as).poller.ledger.generations = ((fresh c r).registrations as).length := by
  induction as using List.reverseRecOn with
  | nil => rfl
  | append_singleton as a ih =>
      rw [run_concat, (((fresh c r).run as).step_spec a).generations_eq, ih, registrations_concat,
        List.length_append]

namespace RegisteredAt

variable {c : Cadence} {r : Registry} {before since : List Action} {generation : Nat}

theorem registered?_eq {s₀ : Service} (h : RegisteredAt s₀ before d generation) :
    Moment.registered? ⟨s₀.run before, .register d⟩ = some d :=
  registered?_of_new (new_of_accepted h.accepted)

/-- A registration has the number that it comes to when all registrations so far are counted. -/
theorem generation_eq_length (h : RegisteredAt (fresh c r) before d generation) :
    generation = ((fresh c r).registrations (before ++ [.register d])).length := by
  rw [← generations_run, run_concat]
  exact h.generation_eq

theorem registrations_eq (h : RegisteredAt (fresh c r) before d generation) :
    (fresh c r).registrations (before ++ [.register d]) =
      (fresh c r).registrations before ++ [d] := by
  rw [registrations_concat, h.registered?_eq, Option.toList_some]

/-- A later registration has a greater number. -/
theorem lt_of_later {middle : List Action} {d' : Definition} {generation' : Nat}
    (h : RegisteredAt (fresh c r) before d generation)
    (h' : RegisteredAt (fresh c r) (before ++ .register d :: middle) d' generation') :
    generation < generation' := by
  have hlength := h'.generation_eq_length
  rw [h'.registrations_eq, List.append_cons before, registrations_append, List.length_append,
    List.length_append, ← h.generation_eq_length, List.length_singleton] at hlength
  omega

theorem eq_of_generation {as before' since' : List Action} {d' : Definition}
    (h : RegisteredAt (fresh c r) before d generation) (hsplit : as = before ++ .register d :: since)
    (h' : RegisteredAt (fresh c r) before' d' generation)
    (hsplit' : as = before' ++ .register d' :: since') : before = before' ∧ d = d' := by
  subst hsplit
  rcases History.cut_cases hsplit' with ⟨hbefore, hregister, -⟩ | ⟨middle, rfl, -⟩ | ⟨middle, rfl, -⟩
  · exact ⟨hbefore, Action.register.inj hregister⟩
  · exact absurd (h.lt_of_later h') (Nat.lt_irrefl _)
  · exact absurd (h'.lt_of_later h) (Nat.lt_irrefl _)

end RegisteredAt

/-- What the table, the ledger and a run's registrations have to do with each other after some actions. -/
structure TableHolds (s₀ : Service) (as : List Action) : Prop where
  distinct : ((s₀.run as).poller.definitions.map (·.label)).Nodup
  keys : ∀ label, label ∈ (s₀.run as).poller.ledger.series.labels ↔
    label ∈ (s₀.run as).poller.definitions.map (·.label)
  standing : (s₀.run as).poller.definitions = s₀.standing as
  /-- A definition has the number of its registration, among all up to and including it. -/
  ordinal : ∀ d ∈ (s₀.run as).poller.definitions, ∃ before since,
    as = before ++ .register d :: since ∧ .unregister d.label ∉ since ∧
      RegisteredAt s₀ before d (s₀.registrations (before ++ [.register d])).length ∧
      (s₀.run as).poller.ledger.generation? d.label =
        some (s₀.registrations (before ++ [.register d])).length
  /-- No two registrations, present or past, have the same number. -/
  unique : ∀ generation before d since before' d' since',
    as = before ++ .register d :: since → RegisteredAt s₀ before d generation →
    as = before' ++ .register d' :: since' → RegisteredAt s₀ before' d' generation →
      before = before' ∧ d = d'
  /-- A tick that comes to a definition finds its series. -/
  found : ∀ epoch earlier d later, (s₀.run as).poller.definitions = earlier ++ d :: later →
    ∃ series, (Poller.issue epoch earlier (s₀.run as).poller.ledger.beginTick).2.series? d.label =
      some series

/-- In every state that a service can reach, its table holds the definitions that were registered and not
taken off since, and its ledger knows them by the numbers of their registrations. -/
theorem table_holds (c : Cadence) (r : Registry) (as : List Action) :
    TableHolds (fresh c r) as := by
  have hcoherent := coherent_run (sound_fresh c r).coherent as
  constructor
  · exact hcoherent.distinct
  · intro label
    rw [LabelMap.mem_labels, ← hcoherent.tracked, Ledger.generation?_isSome]
    rfl
  · exact definitions_run c r as
  · intro d hd
    obtain ⟨generation, hgen⟩ := hcoherent.generation?_of_mem hd
    obtain ⟨before, since, rfl, hregistered⟩ := exists_registeredAt c r as hd hgen
    refine ⟨before, since, rfl, hregistered.kept hgen, ?_, ?_⟩
    · exact hregistered.generation_eq_length ▸ hregistered
    · exact hregistered.generation_eq_length ▸ hgen
  · intro generation before d since before' d' since' hsplit h hsplit' h'
    exact h.eq_of_generation hsplit h' hsplit'
  · intro epoch earlier d later hsplit
    apply Option.isSome_iff_exists.1
    rw [← Ledger.generation?_isSome, Poller.generation?_issue, Ledger.generation?_beginTick,
      hcoherent.tracked, hsplit]
    simp

/-- A registration that is refused has no number, and one that was taken off keeps its own. -/
example : (fresh .everySecond {}).standing [.register .requests, .register .requests,
      .unregister "L1", .register .requests] = [.requests] ∧
    ((fresh .everySecond {}).run [.register .requests, .register .requests,
      .unregister "L1", .register .requests]).poller.ledger.generation? "L1" = some 2 := by decide

end Service

end MetricWatch
