import MetricWatch.Poll.Service
import MetricWatch.Proofs.Poll.Poller

/-!
What an action can lead to. `step_spec` says it once for all actions, with the conditions under which
each outcome comes about. What holds along every run is derived from it.
-/

namespace MetricWatch

namespace Service

/-- Whether an action finds nothing to act on. -/
def Inert (s : Service) : Action → Prop
  | .register d => s.poller.registered d.label = true
  | .unregister label => s.poller.registered label = false
  | .start inRuntime => s.poller.loop.isSome = true ∨ inRuntime = false
  | .stop => s.poller.running = false
  | .tick epoch => s.poller.isCurrent epoch = false
  | .ask number => s.task? number false = none
  | .reply number _ => s.task? number true = none
  | .abandon number => s.task? number true = none
  | .registry _ => False
  | .query _ => True

/-- Whether a sample that the source gives to a task is taken in: it is for the task's own label, and
the run and the registration that the task was issued for are the present ones. -/
def Passes (s : Service) (t : Task) (x : Sample) : Prop :=
  x.label = t.fetch.definition.label ∧ s.poller.isCurrent t.fetch.epoch = true ∧
    s.poller.ledger.isCurrent t.fetch.definition.label t.fetch.generation = true

instance (s : Service) (t : Task) (x : Sample) : Decidable (s.Passes t x) :=
  inferInstanceAs (Decidable (_ ∧ _ ∧ _))

/-- Whether an action ends a task and does nothing else. -/
def Closes (s : Service) (t : Task) : Action → Prop
  | .ask number =>
    number = t.number ∧ t.asked = false ∧ s.poller.isCurrent t.fetch.epoch = false
  | .reply number x => number = t.number ∧ t.asked = true ∧ ¬ s.Passes t x
  | .abandon number => number = t.number ∧ t.asked = true
  | _ => False

/-- An action, the service after it, and what else it causes. -/
inductive Step (s : Service) : Action → Service → Effect → Prop where
  | inert {a : Action} (answer : Answer) (h : s.Inert a) : Step s a s { answer }
  | register (d : Definition) (new : d.label ∉ s.poller.definitions.map (·.label)) :
      Step s (.register d)
        { s with poller := { s.poller with
            definitions := s.poller.definitions ++ [d]
            ledger := (s.poller.ledger.track d.label).2 } }
        { answer := .outcome (.ok ()) }
  | unregister (d : Definition) (known : d ∈ s.poller.definitions) :
      Step s (.unregister d.label)
        { s with poller := { s.poller with
            definitions := s.poller.definitions.eraseP (·.label = d.label)
            ledger := s.poller.ledger.forget d.label
            registry := s.poller.registry.remove d.label } }
        { answer := .unregistered (some d) }
  | start (idle : s.poller.loop = none) :
      Step s (.start true)
        { s with poller := { s.poller with
            running := true, epoch := s.poller.epoch + 1, loop := some (s.poller.epoch + 1) } }
        { answer := .outcome (.ok ()), started := some (s.poller.epoch + 1) }
  | stop (running : s.poller.running = true) :
      Step s .stop { s with poller := { s.poller with running := false, loop := none } } {}
  | tick (epoch : Nat) (current : s.poller.isCurrent epoch = true) {fetches : List Fetch}
      {ledger : Ledger}
      (issue : Poller.issue epoch s.poller.definitions s.poller.ledger.beginTick =
        (fetches, ledger)) :
      Step s (.tick epoch)
        { poller := { s.poller with ledger }
          tasks := s.tasks ++ tasksFrom s.issued fetches
          issued := s.issued + fetches.length }
        { issued := tasksFrom s.issued fetches }
  | ask (t : Task) (mem : t ∈ s.tasks) (unasked : t.asked = false)
      (current : s.poller.isCurrent t.fetch.epoch = true) :
      Step s (.ask t.number) (s.markAsked t) { asked := some t.fetch }
  | close {a : Action} (t : Task) (mem : t ∈ s.tasks) (closes : s.Closes t a) :
      Step s a (s.endTask t) {}
  | deliver (t : Task) (x : Sample) (mem : t ∈ s.tasks) (asked : t.asked = true)
      (passes : s.Passes t x) :
      Step s (.reply t.number x) ({ s with poller := s.poller.taking x }.endTask t)
        { events := s.poller.news x
          deliveries := (s.poller.news x).flatMap (s.poller.taking x).registry.broadcast }
  | registry (r : Registry.Action) :
      Step s (.registry r)
        { s with poller := { s.poller with registry := (s.poller.registry.step r).registry } }
        { answer := .registry (s.poller.registry.step r).answer
          deliveries := (s.poller.registry.step r).deliveries }

theorem mem_of_task? {s : Service} {number : Nat} {asked : Bool} {t : Task}
    (h : s.task? number asked = some t) :
    t ∈ s.tasks ∧ t.number = number ∧ t.asked = asked := by
  have hp := List.find?_some h
  rw [Bool.and_eq_true, decide_eq_true_iff, decide_eq_true_iff] at hp
  exact ⟨List.mem_of_find?_eq_some h, hp.1, hp.2⟩

theorem step_register (s : Service) (d : Definition) :
    s.Step (.register d) (s.register d).1 (s.register d).2 := by
  unfold register Poller.register
  by_cases h : s.poller.registered d.label = true
  · rw [if_pos h]
    exact .inert _ h
  · rw [if_neg h]
    exact .register d (mt Poller.registered_iff.2 h)

theorem step_unregister (s : Service) (label : String) :
    s.Step (.unregister label) (s.unregister label).1 (s.unregister label).2 := by
  unfold unregister Poller.unregister
  cases h : s.poller.definitions.find? (·.label = label) with
  | none =>
      refine .inert _ (Poller.registered_eq_false_iff.2 ?_)
      simpa using h
  | some d =>
      obtain rfl : d.label = label := by simpa using List.find?_some h
      exact .unregister d (List.mem_of_find?_eq_some h)

theorem step_start (s : Service) (inRuntime : Bool) :
    s.Step (.start inRuntime) (s.start inRuntime).1 (s.start inRuntime).2 := by
  unfold start Poller.start
  by_cases h : s.poller.loop.isSome = true
  · rw [if_pos h]
    exact .inert _ (.inl h)
  · rw [if_neg h]
    cases inRuntime with
    | false => exact .inert _ (.inr rfl)
    | true => exact .start (by simpa using h)

theorem step_stop (s : Service) :
    s.Step .stop { s with poller := s.poller.stop } {} := by
  unfold Poller.stop
  by_cases h : s.poller.running = true
  · rw [if_pos h]
    exact .stop h
  · rw [if_neg h]
    exact .inert .done (Bool.eq_false_iff.2 h)

theorem step_tick (s : Service) (epoch : Nat) :
    s.Step (.tick epoch) (s.tick epoch).1 (s.tick epoch).2 := by
  unfold tick Poller.tick
  by_cases h : s.poller.isCurrent epoch = true
  · rw [if_pos h]
    exact .tick epoch h rfl
  · rw [if_neg h]
    have hinert : s.Inert (.tick epoch) := Bool.eq_false_iff.2 h
    simpa [tasksFrom] using Step.inert .done hinert

theorem step_ask (s : Service) (number : Nat) :
    s.Step (.ask number) (s.ask number).1 (s.ask number).2 := by
  unfold ask
  cases h : s.task? number false with
  | none => exact .inert .done h
  | some t =>
      obtain ⟨hmem, rfl, hasked⟩ := mem_of_task? h
      by_cases hcurrent : s.poller.isCurrent t.fetch.epoch = true
      · simp only [if_pos hcurrent]
        exact .ask t hmem hasked hcurrent
      · simp only [if_neg hcurrent]
        exact .close t hmem ⟨rfl, hasked, Bool.eq_false_iff.2 hcurrent⟩

theorem passes_iff {s : Service} {t : Task} {x : Sample}
    (h : x.label = t.fetch.definition.label) :
    s.Passes t x ↔
      (s.poller.isCurrent t.fetch.epoch &&
        s.poller.ledger.isCurrent x.label t.fetch.generation) = true := by
  rw [Bool.and_eq_true, h]
  exact ⟨fun hp => hp.2, fun hp => ⟨h, hp⟩⟩

theorem accept_eq (s : Service) (t : Task) (x : Sample) :
    s.accept t x =
      if s.Passes t x then (s.poller.news x, { s with poller := s.poller.taking x })
      else ([], s) := by
  unfold accept
  by_cases hlabel : x.label = t.fetch.definition.label
  · rw [if_pos hlabel, Poller.deliver_eq]
    simp only [passes_iff hlabel]
    split <;> rfl
  · rw [if_neg hlabel, if_neg fun h => hlabel h.1]

theorem step_reply (s : Service) (number : Nat) (x : Sample) :
    s.Step (.reply number x) (s.reply number x).1 (s.reply number x).2 := by
  unfold reply
  cases h : s.task? number true with
  | none => exact .inert .done h
  | some t =>
      obtain ⟨hmem, rfl, hasked⟩ := mem_of_task? h
      simp only [accept_eq]
      by_cases hpasses : s.Passes t x
      · simp only [if_pos hpasses]
        exact .deliver t x hmem hasked hpasses
      · simp only [if_neg hpasses]
        exact .close t hmem ⟨rfl, hasked, hpasses⟩

theorem step_abandon (s : Service) (number : Nat) :
    s.Step (.abandon number) (s.abandon number).1 (s.abandon number).2 := by
  unfold abandon
  cases h : s.task? number true with
  | none => exact .inert .done h
  | some t =>
      obtain ⟨hmem, rfl, hasked⟩ := mem_of_task? h
      exact .close t hmem ⟨rfl, hasked⟩

theorem step_spec (s : Service) (a : Action) : s.Step a (s.step a).1 (s.step a).2 := by
  cases a with
  | register d => exact s.step_register d
  | unregister label => exact s.step_unregister label
  | start inRuntime => exact s.step_start inRuntime
  | stop => exact s.step_stop
  | tick epoch => exact s.step_tick epoch
  | ask number => exact s.step_ask number
  | reply number x => exact s.step_reply number x
  | abandon number => exact s.step_abandon number
  | registry r => exact .registry r
  | query q => exact .inert _ trivial

end Service

end MetricWatch
