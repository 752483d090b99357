import MetricWatch.Proofs.Poll.Step

/-!
Runs: what a list of actions makes of a service, and the moments at which they take place. A fact that
each step keeps is a fact of every run.
-/

namespace MetricWatch

namespace Service

/-- A service at the beginning, with the registry that it was given. -/
def fresh (c : Cadence) (r : Registry) : Service := { poller := { cadence := c, registry := r } }

/-- The service after some actions. -/
def run (s : Service) (as : List Action) : Service := as.foldl (fun s a => (s.step a).1) s

/-- An action that takes place, and the service that it finds. -/
structure Moment where
  before : Service
  action : Action

/-- What the action of a moment causes. -/
def Moment.effect (m : Moment) : Effect := (m.before.step m.action).2

/-- The moments of a run, in order. -/
def moments (s : Service) : List Action → List Moment
  | [] => []
  | a :: as => ⟨s, a⟩ :: (s.step a).1.moments as

@[simp] theorem run_nil (s : Service) : s.run [] = s := rfl

@[simp] theorem run_cons (s : Service) (a : Action) (as : List Action) :
    s.run (a :: as) = (s.step a).1.run as := rfl

theorem run_append (s : Service) (as bs : List Action) :
    s.run (as ++ bs) = (s.run as).run bs :=
  List.foldl_append

theorem run_concat (s : Service) (as : List Action) (a : Action) :
    s.run (as ++ [a]) = ((s.run as).step a).1 :=
  run_append s as [a]

theorem run_append_cons (s : Service) (as : List Action) (a : Action) (bs : List Action) :
    s.run (as ++ a :: bs) = (s.run (as ++ [a])).run bs := by
  rw [run_append, run_cons, run_concat]

theorem moments_append (s : Service) (as bs : List Action) :
    s.moments (as ++ bs) = s.moments as ++ (s.run as).moments bs := by
  induction as generalizing s with
  | nil => rfl
  | cons a as ih => rw [List.cons_append, moments, ih, moments, List.cons_append, run_cons]

theorem moments_concat (s : Service) (as : List Action) (a : Action) :
    s.moments (as ++ [a]) = s.moments as ++ [⟨s.run as, a⟩] :=
  moments_append s as [a]

/-- What holds at the beginning and is kept by each step of a run holds at its end. -/
theorem run_induct {P : Service → Prop} {s : Service} {as : List Action} (start : P s)
    (step : ∀ {s a s' e}, a ∈ as → P s → Step s a s' e → P s') : P (s.run as) := by
  induction as generalizing s with
  | nil => exact start
  | cons a as ih =>
      apply ih (step List.mem_cons_self start (s.step_spec a))
      intro s b s' e hb hs hstep
      exact step (List.mem_cons_of_mem _ hb) hs hstep

theorem action_mem_of_mem_moments {s : Service} {as : List Action} {m : Moment}
    (hm : m ∈ s.moments as) : m.action ∈ as := by
  induction as generalizing s with
  | nil => cases hm
  | cons a as ih =>
      rcases List.mem_cons.1 hm with rfl | hm
      · exact List.mem_cons_self
      · exact List.mem_cons_of_mem _ (ih hm)

/-- A run that registers a definition and takes in some samples, each on a tick of its own. -/
def feeding (d : Definition) (xs : List Sample) : List Action :=
  .register d :: .start true ::
    xs.zipIdx.flatMap fun (x, number) => [.tick 1, .ask number, .reply number x]

end Service

/-- A definition for runs that are given in full. -/
def Definition.requests : Definition where
  name := "Req"
  path := "lastMinute/avg"
  label := "L1"
  name_written := by decide
  path_written := by decide
  label_written := by decide

/-- A cadence for runs that are given in full. -/
def Cadence.everySecond : Cadence where
  interval := 1000
  threshold := 2
  interval_ne_zero := by decide
  threshold_ne_zero := by decide

end MetricWatch
