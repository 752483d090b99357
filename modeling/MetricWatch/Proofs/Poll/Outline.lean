import MetricWatch.Proofs.Poll.Ticks

/-!
The outline of a poller: what decides when it ticks and under which generation it polls a label.
What an action makes of the outline depends on the outline alone, and what becomes of fetches is no
part of it.
-/

namespace MetricWatch

structure Outline where
  cadence : Cadence
  definitions : List Definition
  running : Bool
  epoch : Nat
  loop : Option Nat
  ticks : Nat
  generations : Nat
  generation? : String → Option Nat

def Poller.outline (p : Poller) : Outline where
  cadence := p.cadence
  definitions := p.definitions
  running := p.running
  epoch := p.epoch
  loop := p.loop
  ticks := p.ledger.ticks
  generations := p.ledger.generations
  generation? := p.ledger.generation?

namespace Poller

variable (p : Poller)

theorem outline_alter (label : String) {f : Series → Series}
    (hf : ∀ s, (f s).generation = s.generation) :
    { p with ledger := p.ledger.alter label f }.outline = p.outline := by
  simp [outline, funext_iff, Ledger.generation?_alter _ _ _ _ hf]

theorem outline_issue (epoch : Nat) :
    { p with ledger := (issue epoch p.definitions p.ledger.beginTick).2 }.outline =
      { p.outline with ticks := p.ledger.beginTick.ticks } := by
  simp [outline, funext_iff, ticks_issue]

end Poller

namespace Outline

/-- The outline after an action of the service. -/
def step (o : Outline) : Service.Action → Outline
  | .register d =>
    if d.label ∈ o.definitions.map (·.label) then o
    else { o with
      definitions := o.definitions ++ [d]
      generations := o.generations + 1
      generation? := fun label =>
        if d.label = label then some (o.generations + 1) else o.generation? label }
  | .unregister label =>
    if label ∈ o.definitions.map (·.label) then { o with
      definitions := o.definitions.eraseP (·.label = label)
      generation? := fun other => if label = other then none else o.generation? other }
    else o
  | .start inRuntime =>
    if o.loop = none ∧ inRuntime = true then
      { o with running := true, epoch := o.epoch + 1, loop := some (o.epoch + 1) }
    else o
  | .stop => if o.running = true then { o with running := false, loop := none } else o
  | .tick epoch =>
    if o.running = true ∧ o.epoch = epoch then { o with ticks := o.ticks + 1 } else o
  | _ => o

/-- An action begins a run, or it leaves runs alone, or it ends the one that goes on. -/
theorem step_cases (o : Outline) (a : Service.Action) :
    ((o.step a).epoch = o.epoch + 1 ∧ (o.step a).running = true) ∨
      ((o.step a).epoch = o.epoch ∧ (o.step a).running = o.running) ∨
      ((o.step a).epoch = o.epoch ∧ (o.step a).running = false ∧ o.running = true) := by
  cases a with
  | start inRuntime =>
      rw [step]
      split
      · exact .inl ⟨rfl, rfl⟩
      · exact .inr (.inl ⟨rfl, rfl⟩)
  | stop =>
      rw [step]
      split
      · exact .inr (.inr ⟨rfl, rfl, by assumption⟩)
      · exact .inr (.inl ⟨rfl, rfl⟩)
  | register | unregister | tick =>
      rw [step]
      split <;> exact .inr (.inl ⟨rfl, rfl⟩)
  | _ => exact .inr (.inl ⟨rfl, rfl⟩)

theorem epoch_le_step (o : Outline) (a : Service.Action) : o.epoch ≤ (o.step a).epoch := by
  rcases o.step_cases a with ⟨h, -⟩ | ⟨h, -⟩ | ⟨h, -⟩ <;> omega

theorem cadence_step (o : Outline) (a : Service.Action) : (o.step a).cadence = o.cadence := by
  cases a with
  | register | unregister | start | stop | tick =>
      rw [step]
      split <;> rfl
  | _ => rfl

theorem ticks_step (o : Outline) {a : Service.Action} (ha : ∀ epoch, a ≠ .tick epoch) :
    (o.step a).ticks = o.ticks := by
  cases a with
  | tick epoch => exact absurd rfl (ha epoch)
  | register | unregister | start | stop =>
      rw [step]
      split <;> rfl
  | _ => rfl

/-- While a run goes on, only `stop` touches it. -/
theorem step_going {o : Outline} {a : Service.Action} (hloop : o.loop.isSome = true)
    (ha : a ≠ .stop) :
    (o.step a).running = o.running ∧ (o.step a).loop = o.loop ∧
      (o.step a).epoch = o.epoch := by
  cases a with
  | start inRuntime =>
      have hnot : ¬ (o.loop = none ∧ inRuntime = true) := by
        rintro ⟨hnone, -⟩
        rw [hnone] at hloop
        cases hloop
      rw [step, if_neg hnot]
      exact ⟨rfl, rfl, rfl⟩
  | stop => exact absurd rfl ha
  | register | unregister | tick =>
      rw [step]
      split <;> exact ⟨rfl, rfl, rfl⟩
  | _ => exact ⟨rfl, rfl, rfl⟩

end Outline

namespace Service

variable {s s' : Service} {a : Action} {e : Effect}

theorem outline_of_inert (h : s.Inert a) : s.poller.outline.step a = s.poller.outline := by
  cases a with
  | register d => exact if_pos (Poller.registered_iff.1 h)
  | unregister label => exact if_neg (Poller.registered_eq_false_iff.1 h)
  | start inRuntime =>
      apply if_neg
      rintro ⟨hloop, rfl⟩
      rcases h with h | h
      · rw [show s.poller.loop = none from hloop] at h
        cases h
      · cases h
  | stop => exact if_neg (Bool.eq_false_iff.1 h)
  | tick epoch => exact if_neg (mt Poller.isCurrent_iff.2 (Bool.eq_false_iff.1 h))
  | _ => rfl

theorem outline_of_closes {t : Task} (h : s.Closes t a) :
    s.poller.outline.step a = s.poller.outline := by
  cases a with
  | ask | reply | abandon => rfl
  | _ => exact h.elim

theorem Step.outline_eq (h : Step s a s' e) :
    s'.poller.outline = s.poller.outline.step a := by
  cases h with
  | inert answer h => exact (outline_of_inert h).symm
  | register d new =>
      refine Eq.trans ?_ (if_neg new).symm
      exact congrArg ({ s.poller.outline with
          definitions := s.poller.definitions ++ [d]
          generations := s.poller.ledger.generations + 1
          generation? := · }) (funext (s.poller.ledger.generation?_track d.label))
  | unregister d known =>
      refine Eq.trans ?_ (if_pos (List.mem_map.2 ⟨d, known, rfl⟩)).symm
      exact congrArg ({ s.poller.outline with
          definitions := s.poller.definitions.eraseP (·.label = d.label)
          generation? := · }) (funext (s.poller.ledger.generation?_forget d.label))
  | start idle => exact (if_pos ⟨idle, rfl⟩).symm
  | stop running => exact (if_pos running).symm
  | tick epoch current issue =>
      obtain rfl := congrArg Prod.snd issue
      refine Eq.trans ?_ (if_pos (Poller.isCurrent_iff.1 current)).symm
      exact Poller.outline_issue s.poller epoch
  | ask | registry => rfl
  | close t mem closes =>
      rw [outline_of_closes closes]
      exact s.poller.outline_alter _ (Series.released_generation _)
  | deliver t x =>
      refine (Poller.outline_alter _ _ (Series.released_generation _)).trans ?_
      rw [Poller.taking, Ledger.record_eq]
      exact s.poller.outline_alter x.label (Series.taking_generation _ x)

/-- A loop is started when the number of runs grows. -/
theorem Step.started_eq (h : Step s a s' e) :
    e.started =
      if s.poller.outline.epoch < s'.poller.outline.epoch then some s'.poller.outline.epoch
      else none := by
  cases h with
  | start idle => exact (if_pos (Nat.lt_succ_self _)).symm
  | _ => exact (if_neg (Nat.lt_irrefl _)).symm

theorem idle_of_started {inRuntime : Bool}
    (h : (s.step (.start inRuntime)).2.answer = .outcome (.ok ())) :
    s.poller.loop = none ∧ inRuntime = true := by
  change (s.start inRuntime).2.answer = _ at h
  unfold start Poller.start at h
  by_cases hloop : s.poller.loop.isSome = true
  · simp [hloop] at h
  · cases inRuntime with
    | false => simp [hloop] at h
    | true => exact ⟨by simpa using hloop, rfl⟩

theorem Step.started_eq_none (h : Step s a s' e) (ha : ∀ inRuntime, a ≠ .start inRuntime) :
    e.started = none := by
  cases h with
  | start => exact absurd rfl (ha true)
  | _ => rfl

theorem Step.issued_eq_nil (h : Step s a s' e) (ha : ∀ epoch, a ≠ .tick epoch) :
    e.issued = [] := by
  cases h with
  | tick epoch => exact absurd rfl (ha epoch)
  | _ => rfl

end Service

end MetricWatch
