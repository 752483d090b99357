import MetricWatch.Poll.Handle
import MetricWatch.Proofs.Poll.Delivery
import MetricWatch.Proofs.Poll.Outline

/-!
The life of a poller from start to stop and on to the next start. Runs are numbered upwards, the loop
that is held is the one of the last run, and it is held exactly while the poller runs. A tick of any
other loop, and any tick after a stop, changes nothing.
-/

namespace MetricWatch

namespace Poller

/-- Whether some runs, in order, are those that were begun, the last of which is the poller's. -/
structure Turns (p : Poller) (runs : List Nat) : Prop where
  ascending : runs.Pairwise (· < ·)
  bounded : ∀ epoch ∈ runs, epoch ≤ p.epoch
  last : p.running = true → runs.getLast? = some p.epoch
  loop_eq : p.loop = if p.running then some p.epoch else none

namespace Turns

variable {p : Poller} {runs : List Nat}

theorem of_same {q : Poller} (h : p.Turns runs) (hrunning : q.running = p.running)
    (hepoch : q.epoch = p.epoch) (hloop : q.loop = p.loop) : q.Turns runs where
  ascending := h.ascending
  bounded := hepoch ▸ h.bounded
  last := by
    rw [hrunning, hepoch]
    exact h.last
  loop_eq := by rw [hloop, hrunning, hepoch, h.loop_eq]

theorem start (h : p.Turns runs) :
    Turns { p with running := true, epoch := p.epoch + 1, loop := some (p.epoch + 1) }
      (runs ++ [p.epoch + 1]) where
  ascending := by
    refine List.pairwise_append.2 ⟨h.ascending, List.pairwise_singleton _ _, ?_⟩
    intro epoch hepoch next hnext
    rw [List.mem_singleton.1 hnext]
    exact Nat.lt_succ_of_le (h.bounded epoch hepoch)
  bounded epoch hepoch := by
    rcases List.mem_append.1 hepoch with hepoch | hepoch
    · exact Nat.le_succ_of_le (h.bounded epoch hepoch)
    · exact Nat.le_of_eq (List.mem_singleton.1 hepoch)
  last _ := List.getLast?_concat
  loop_eq := rfl

theorem stop (h : p.Turns runs) : Turns { p with running := false, loop := none } runs where
  ascending := h.ascending
  bounded := h.bounded
  last := nofun
  loop_eq := rfl

theorem loop_isSome (h : p.Turns runs) : p.loop.isSome = p.running := by
  rw [h.loop_eq]
  cases p.running <;> rfl

theorem loop_eq_none_iff (h : p.Turns runs) : p.loop = none ↔ p.running = false := by
  rw [← Option.not_isSome_iff_eq_none, h.loop_isSome, Bool.not_eq_true]

theorem isCurrent_iff (h : p.Turns runs) {epoch : Nat} :
    p.isCurrent epoch = true ↔ p.running = true ∧ runs.getLast? = some epoch := by
  rw [Poller.isCurrent_iff]
  refine and_congr_right fun hrunning => ?_
  rw [h.last hrunning, Option.some.injEq]

end Turns

end Poller

namespace Service

variable {s s' : Service} {a : Action} {e : Effect}

theorem Step.turns (h : Step s a s' e) {runs : List Nat} (hs : s.poller.Turns runs) :
    s'.poller.Turns (runs ++ e.started.toList) := by
  cases h with
  | start => exact hs.start
  | stop =>
      rw [Option.toList_none, List.append_nil]
      exact hs.stop
  | _ =>
      rw [Option.toList_none, List.append_nil]
      exact hs.of_same rfl rfl rfl

theorem answer_start_iff (s : Service) (inRuntime : Bool) :
    (s.step (.start inRuntime)).2.answer = .outcome (.ok ()) ↔
      s.poller.loop = none ∧ inRuntime = true := by
  change (s.start inRuntime).2.answer = _ ↔ _
  unfold start Poller.start
  cases s.poller.loop <;> cases inRuntime <;> simp

theorem started_start_of_idle (h : s.poller.loop = none) :
    (s.step (.start true)).2.started = some (s.poller.epoch + 1) := by
  change (s.start true).2.started = _
  simp [start, Poller.start, h]

theorem step_stop_of_stopped (h : s.poller.running = false) : s.step .stop = (s, {}) := by
  change ({ s with poller := s.poller.stop }, ({} : Effect)) = _
  rw [Poller.stop, if_neg (Bool.eq_false_iff.1 h)]

theorem step_tick_of_stopped (h : s.poller.running = false) (epoch : Nat) :
    s.step (.tick epoch) = (s, {}) := by
  apply step_tick_of_over
  rw [Poller.isCurrent, h, Bool.false_and]

end Service

namespace Handle

/-- A service at the beginning, with its handle. -/
def fresh (c : Cadence) (r : Registry) : Handle := { service := .fresh c r }

/-- The service and its handle after some actions. -/
def run (h : Handle) (as : List Action) : Handle := as.foldl (fun h a => (h.step a).1) h

/-- The effects of some actions, in order. -/
def effects (h : Handle) : List Action → List Service.Effect
  | [] => []
  | a :: as => (h.step a).2 :: (h.step a).1.effects as

/-- The runs that some actions begin, in order. -/
def begun (h : Handle) (as : List Action) : List Nat := (h.effects as).filterMap (·.started)

variable {h : Handle} {a : Action}

theorem run_concat (h : Handle) (as : List Action) (a : Action) :
    h.run (as ++ [a]) = ((h.run as).step a).1 :=
  List.foldl_append

theorem effects_concat (h : Handle) (as : List Action) (a : Action) :
    h.effects (as ++ [a]) = h.effects as ++ [((h.run as).step a).2] := by
  induction as generalizing h with
  | nil => rfl
  | cons b as ih => exact congrArg ((h.step b).2 :: ·) (ih (h.step b).1)

theorem begun_concat (h : Handle) (as : List Action) (a : Action) :
    h.begun (as ++ [a]) = h.begun as ++ ((h.run as).step a).2.started.toList := by
  rw [begun, effects_concat, List.filterMap_append, List.filterMap_cons, List.filterMap_nil]
  rfl

/-- An action is one of the service, or it cannot happen. -/
theorem step_cases (h : Handle) (a : Action) :
    (∃ request, h.request? a = some request ∧
      h.step a = (⟨(h.service.step request).1, h.kept a⟩, (h.service.step request).2)) ∨
    h.request? a = none ∧ h.step a = (h, {}) := by
  unfold step
  cases hrequest : h.request? a with
  | none => exact .inr ⟨rfl, rfl⟩
  | some request => exact .inl ⟨request, rfl, rfl⟩

theorem step_act (hheld : h.held = true) (a : Service.Action) :
    h.step (.act a) = (⟨(h.service.step a).1, true⟩, (h.service.step a).2) := by
  simp [step, request?, kept, hheld]

theorem step_tick (h : Handle) (epoch : Nat) :
    h.step (.act (.tick epoch)) =
      (⟨(h.service.step (.tick epoch)).1, h.held⟩, (h.service.step (.tick epoch)).2) := rfl

theorem step_tick_of_not_current {epoch : Nat} (hs : h.service.poller.isCurrent epoch = false) :
    h.step (.act (.tick epoch)) = (h, {}) := by
  rw [step_tick, Service.step_tick_of_over hs]

theorem turns_run (c : Cadence) (r : Registry) (as : List Action) :
    ((fresh c r).run as).service.poller.Turns ((fresh c r).begun as) := by
  induction as using List.reverseRecOn with
  | nil =>
      exact {
        ascending := List.Pairwise.nil
        bounded := nofun
        last := nofun
        loop_eq := rfl }
  | append_singleton as a ih =>
      rw [run_concat, begun_concat]
      rcases ((fresh c r).run as).step_cases a with ⟨request, -, hstep⟩ | ⟨-, hstep⟩
      · rw [hstep]
        exact (Service.step_spec _ request).turns ih
      · rw [hstep, Option.toList_none, List.append_nil]
        exact ih

/-- A poller that does not run does so again only after a start. -/
theorem stopped_run (hs : h.service.poller.running = false) {as : List Action}
    (hnone : h.begun as = []) : (h.run as).service.poller.running = false := by
  induction as using List.reverseRecOn with
  | nil => exact hs
  | append_singleton as a ih =>
      rw [begun_concat, List.append_eq_nil_iff] at hnone
      rw [run_concat]
      rcases (h.run as).step_cases a with ⟨request, -, hstep⟩ | ⟨-, hstep⟩
      · rw [hstep] at hnone ⊢
        apply (Service.step_spec _ request).stopped (ih hnone.1)
        simpa using hnone.2
      · rw [hstep]
        exact ih hnone.1

theorem needed_of_request? (hh : h.held = false) {request : Service.Action}
    (hrequest : h.request? a = some request) : needed request = false := by
  cases a with
  | act b =>
      rw [request?, hh, Bool.not_false, Bool.and_true] at hrequest
      split at hrequest
      · cases hrequest
      · rename_i hneeded
        exact Option.some.inj hrequest ▸ Bool.eq_false_iff.2 hneeded
  | drop =>
      rw [request?, hh] at hrequest
      cases hrequest

theorem kept_of_dropped (hh : h.held = false) (a : Action) : h.kept a = false := by
  cases a with
  | act => exact hh
  | drop => rfl

/-- Without its handle a poller is not started. -/
theorem begun_eq_nil_of_dropped (hh : h.held = false) (as : List Action) :
    (h.run as).held = false ∧ h.begun as = [] := by
  induction as using List.reverseRecOn with
  | nil => exact ⟨hh, rfl⟩
  | append_singleton as a ih =>
      rw [begun_concat, ih.2, List.nil_append, run_concat]
      rcases (h.run as).step_cases a with ⟨request, hrequest, hstep⟩ | ⟨-, hstep⟩
      · rw [hstep]
        refine ⟨kept_of_dropped ih.1 a, ?_⟩
        have hneeded := needed_of_request? ih.1 hrequest
        have hnone : ((h.run as).service.step request).2.started = none := by
          apply (Service.step_spec _ request).started_eq_none
          rintro inRuntime rfl
          cases hneeded
        rw [hnone]
        rfl
      · rw [hstep]
        exact ⟨ih.1, rfl⟩

theorem step_halt (hheld : h.held = true) (ha : a = .act .stop ∨ a = .drop) :
    h.step a = (⟨(h.service.step .stop).1, h.kept a⟩, {}) := by
  rcases ha with rfl | rfl
  · rw [step_act hheld, kept, hheld]
    rfl
  · simp only [step, request?, hheld, if_true]
    rfl

theorem running_step_halt (hheld : h.held = true) (ha : a = .act .stop ∨ a = .drop) :
    (h.step a).1.service.poller.running = false := by
  rw [step_halt hheld ha]
  exact Service.running_step_stop _

theorem step_stop_of_stopped (hs : h.service.poller.running = false) :
    h.step (.act .stop) = (h, {}) := by
  rcases h.step_cases (.act .stop) with ⟨request, hrequest, hstep⟩ | ⟨-, hstep⟩
  · obtain rfl : .stop = request := by
      rw [request?] at hrequest
      split at hrequest
      · cases hrequest
      · exact Option.some.inj hrequest
    rw [hstep, Service.step_stop_of_stopped hs]
    rfl
  · exact hstep

theorem step_tick_of_stopped (hs : h.service.poller.running = false) (epoch : Nat) :
    h.step (.act (.tick epoch)) = (h, {}) := by
  rw [step_tick, Service.step_tick_of_stopped hs]

/-- In every state that a poller can reach while it is started, stopped and dropped, its loop is held
exactly while it runs. A start succeeds when the poller does not run and there is a runtime, and its run
is numbered above all earlier ones. A tick is counted if it is one of the last run and the poller runs,
and changes nothing otherwise. Stopping twice is stopping once, and no tick changes anything from then on
until a start succeeds, which none does once the handle is dropped. -/
theorem started_in_turn (c : Cadence) (r : Registry) (as : List Action) :
    let h := (fresh c r).run as
    let runs := (fresh c r).begun as
    (h.service.poller.loop.isSome = h.service.poller.running ∧ runs.Pairwise (· < ·)) ∧
    (h.held = true → ∀ inRuntime,
      ((h.step (.act (.start inRuntime))).2.answer = .outcome (.ok ()) ↔
        h.service.poller.running = false ∧ inRuntime = true) ∧
      ((h.step (.act (.start inRuntime))).2.answer = .outcome (.ok ()) →
        ∃ epoch, (h.step (.act (.start inRuntime))).2.started = some epoch ∧
          ∀ earlier ∈ runs, earlier < epoch)) ∧
    (∀ epoch,
      (h.service.poller.running = true ∧ runs.getLast? = some epoch →
        (h.step (.act (.tick epoch))).1.service.poller.ledger.ticks =
          h.service.poller.ledger.ticks + 1) ∧
      (¬ (h.service.poller.running = true ∧ runs.getLast? = some epoch) →
        h.step (.act (.tick epoch)) = (h, {}))) ∧
    (h.held = true → ∀ halt, halt = .act .stop ∨ halt = .drop →
      (h.step halt).1.step (.act .stop) = ((h.step halt).1, {}) ∧
      ∀ since, halt = .drop ∨ (h.step halt).1.begun since = [] →
        ∀ epoch, ((h.step halt).1.run since).step (.act (.tick epoch)) =
          ((h.step halt).1.run since, {})) := by
  intro h runs
  have hturns : h.service.poller.Turns runs := turns_run c r as
  clear_value h runs
  refine ⟨⟨hturns.loop_isSome, hturns.ascending⟩, ?_, ?_, ?_⟩
  · intro hheld inRuntime
    rw [step_act hheld, Service.answer_start_iff, hturns.loop_eq_none_iff]
    refine ⟨Iff.rfl, ?_⟩
    rintro ⟨hstopped, rfl⟩
    refine ⟨_, Service.started_start_of_idle (hturns.loop_eq_none_iff.2 hstopped), ?_⟩
    intro earlier hmem
    exact Nat.lt_succ_of_le (hturns.bounded earlier hmem)
  · intro epoch
    rw [← hturns.isCurrent_iff]
    constructor
    · intro hcurrent
      rw [step_tick, (Service.step_spec _ _).ticks_eq]
      exact congrArg (_ + Bool.toNat ·) hcurrent
    · intro hover
      exact step_tick_of_not_current (Bool.eq_false_iff.2 hover)
  · intro hheld halt hhalt
    have hstopped := running_step_halt hheld hhalt
    refine ⟨step_stop_of_stopped hstopped, ?_⟩
    intro since hsince epoch
    apply step_tick_of_stopped
    apply stopped_run hstopped
    rcases hsince with rfl | hnone
    · rw [step_halt hheld (.inr rfl)]
      exact (begun_eq_nil_of_dropped rfl since).2
    · exact hnone

/-- A fetch issued, a stop, and a second run that a tick of the first does not touch. Then the handle is
dropped, and no call reaches the poller any more. -/
def secondRun : List Action :=
  [.act (.register .requests), .act (.start true), .act (.tick 1), .act .stop, .act (.start false),
    .act (.start true), .act (.start true), .act (.tick 1), .act (.tick 2)]

theorem started_in_turn_secondRun :
    (fresh .everySecond {}).begun secondRun = [1, 2] ∧
      ((fresh .everySecond {}).run secondRun).service.poller.loop = some 2 ∧
      ((fresh .everySecond {}).run secondRun).service.poller.running = true ∧
      (((fresh .everySecond {}).run secondRun).step (.act (.tick 2))).1.service.poller.ledger.ticks =
        3 ∧
      ((fresh .everySecond {}).run secondRun).step (.act (.tick 1)) =
        ((fresh .everySecond {}).run secondRun, {}) ∧
      ((((fresh .everySecond {}).run secondRun).step .drop).1.run
          [.act (.start true), .act (.tick 2)]).step (.act (.tick 3)) =
        ((((fresh .everySecond {}).run secondRun).step .drop).1.run
          [.act (.start true), .act (.tick 2)], {}) := by
  have hbegun : (fresh .everySecond {}).begun secondRun = [1, 2] := by decide
  have hloop : ((fresh .everySecond {}).run secondRun).service.poller.loop = some 2 := by decide
  have hheld : ((fresh .everySecond {}).run secondRun).held = true := by decide
  obtain ⟨⟨hrunning, -⟩, -, hticks, hhalt⟩ := started_in_turn .everySecond {} secondRun
  rw [hloop] at hrunning
  refine ⟨hbegun, hloop, hrunning.symm, ?_, ?_, ?_⟩
  · exact (hticks 2).1 ⟨hrunning.symm, by rw [hbegun]; rfl⟩
  · apply (hticks 1).2
    rw [hbegun]
    decide
  · exact (hhalt hheld .drop (.inr rfl)).2 _ (.inl rfl) 3

end Handle

end MetricWatch
