import MetricWatch.Proofs.Poll.Lifecycle

/-!
Calls that are refused, or that find nothing to do, leave a service as it is and tell nobody. Nor is
anything left of a registration that is taken back but its number, which is not used again.
-/

namespace MetricWatch

namespace Poller

theorem unregister_of_not_registered {p : Poller} {label : String}
    (h : p.registered label = false) : p.unregister label = none := by
  have hnone : p.definitions.find? (·.label = label) = none :=
    List.find?_eq_none.2 (List.any_eq_false.1 h)
  rw [unregister, hnone, Option.map_none]

/-- Taking a new definition off again undoes the registration, but for the count of registrations. Of
the registry everything about the label is forgotten. -/
theorem unregister_of_new {p : Poller} (hp : p.Coherent) {d : Definition}
    (hd : d.label ∉ p.definitions.map (·.label)) :
    unregister { p with
        definitions := p.definitions ++ [d], ledger := (p.ledger.track d.label).2 } d.label =
      some (d, { p with
        ledger := { p.ledger with generations := p.ledger.generations + 1 }
        registry := p.registry.remove d.label }) := by
  have hnew : p.definitions.find? (·.label = d.label) = none :=
    List.find?_eq_none.2 (List.any_eq_false.1 (registered_eq_false_iff.2 hd))
  have hseries : p.ledger.series.get? d.label = none := by
    have hgeneration := hp.generation?_eq_none hd
    rwa [← Option.not_isSome_iff_eq_none, Ledger.generation?_isSome,
      Option.not_isSome_iff_eq_none] at hgeneration
  have hdefinitions : (p.definitions ++ [d]).eraseP (·.label = d.label) = p.definitions := by
    rw [List.eraseP_append_right _ (List.find?_eq_none.1 hnew), List.eraseP_cons_of_pos (by simp),
      List.append_nil]
  rw [unregister, List.find?_append, hnew, Option.none_or, List.find?_singleton,
    decide_eq_true rfl, if_pos rfl, Option.map_some, hdefinitions]
  simp only [Ledger.track, Ledger.forget, LabelMap.erase_insert_of_get?_eq_none hseries]

end Poller

namespace Service

/-- The error of a start that is refused. -/
def startProblem (s : Service) : SchedulerProblem :=
  if s.poller.running then .alreadyRunning else .outsideRuntime

/-- What calls do that cannot be done, or that there is nothing to do for. Their effects are the answers
alone: no event, no fetch and no run. -/
structure Refusals (s : Service) : Prop where
  register : ∀ d, d.label ∈ s.poller.definitions.map (·.label) →
    s.step (.register d) = (s, { answer := .outcome (.error (.duplicateLabel d.label)) })
  unregister : ∀ label, label ∉ s.poller.definitions.map (·.label) →
    s.step (.unregister label) = (s, { answer := .unregistered none })
  start : ∀ inRuntime, s.poller.running = true ∨ inRuntime = false →
    s.step (.start inRuntime) = (s, { answer := .outcome (.error (.scheduler s.startProblem)) })
  stop : s.poller.running = false → s.step .stop = (s, {})
  /-- A registration that is taken back leaves its number behind, and nothing cached of its label. -/
  takenBack : ∀ d, d.label ∉ s.poller.definitions.map (·.label) →
    (s.step (.register d)).2 = { answer := .outcome (.ok ()) } ∧
      (s.step (.register d)).1.step (.unregister d.label) =
        ({ s with poller := { s.poller with
            ledger := { s.poller.ledger with generations := s.poller.ledger.generations + 1 }
            registry := s.poller.registry.remove d.label } },
          { answer := .unregistered (some d) })

/-- The loop is held exactly while the poller runs. -/
theorem loop_isSome_run (c : Cadence) (r : Registry) (as : List Action) :
    ((fresh c r).run as).poller.loop.isSome = ((fresh c r).run as).poller.running := by
  have hturns : ∃ runs, ((fresh c r).run as).poller.Turns runs := by
    apply run_induct (P := fun s => ∃ runs, s.poller.Turns runs)
    · exact ⟨[], List.Pairwise.nil, nofun, nofun, rfl⟩
    · rintro s a s' e - ⟨runs, hs⟩ hstep
      exact ⟨_, hstep.turns hs⟩
  obtain ⟨runs, hruns⟩ := hturns
  exact hruns.loop_isSome

/-- In every state that a service can reach, a call that cannot be done, or that there is nothing to do
for, changes nothing at all, and a registration that is taken back leaves no more than its number. -/
theorem refusals_hold (c : Cadence) (r : Registry) (as : List Action) :
    Refusals ((fresh c r).run as) := by
  have hcoherent := coherent_run (sound_fresh c r).coherent as
  have hloop := loop_isSome_run c r as
  constructor
  · intro d hd
    rw [step, register, Poller.register, if_pos (Poller.registered_iff.2 hd)]
  · intro label hlabel
    rw [step, unregister,
      Poller.unregister_of_not_registered (Poller.registered_eq_false_iff.2 hlabel)]
  · intro inRuntime h
    rw [step, start, Poller.start, hloop, startProblem]
    cases hrunning : ((fresh c r).run as).poller.running with
    | true => rfl
    | false =>
        rw [hrunning] at h
        obtain rfl := h.resolve_left Bool.false_ne_true
        rfl
  · exact step_stop_of_stopped
  · intro d hd
    rw [step_register_of_new hd]
    refine ⟨rfl, ?_⟩
    rw [step, unregister, Poller.unregister_of_new hcoherent hd]

/-- A poller that runs, with a fetch outstanding. -/
example : (fresh .everySecond {}).run [.register .requests, .start true, .tick 1, .ask 0,
      .register .requests, .unregister "L2", .start true, .start false] =
    (fresh .everySecond {}).run [.register .requests, .start true, .tick 1, .ask 0] := by decide

end Service

end MetricWatch
