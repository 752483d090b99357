import MetricWatch.Proofs.Timeline.Keeping

/-!
Time passes from one due timer to the next, which comes to the same as beat by beat: a beat at which
nothing is due only moves the clock. So a timeline that keeps time with a metronome goes on doing so
while time passes, and it does not matter in how many pieces the time is let pass.
-/

namespace MetricWatch

namespace Timeline

/-- Whether `u` comes from `t` by work that makes nothing ready but some tasks. -/
structure Readies (t : Timeline) (tasks : List Nat) (u : Timeline) : Prop where
  source : u.source = t.source
  ready : u.ready = t.ready ++ tasks.map .ask

namespace Readies

variable {t u v : Timeline} {tasks more : List Nat}

theorem refl : t.Readies [] t := ⟨rfl, (List.append_nil _).symm⟩

theorem trans (h : t.Readies tasks u) (h' : u.Readies more v) : t.Readies (tasks ++ more) v where
  source := h'.source.trans h.source
  ready := by rw [h'.ready, h.ready, List.map_append, List.append_assoc]

theorem act_tick (t : Timeline) (epoch : Nat) :
    ∃ tasks, t.Readies tasks (t.act (.tick epoch)).1 := by
  have hstarted := (t.service.step_spec (.tick epoch)).started_eq_none (by simp)
  refine ⟨(t.service.step (.tick epoch)).2.issued.map (·.number), rfl, ?_⟩
  rw [ready_act, hstarted, List.map_map]
  exact rfl

theorem act (t : Timeline) {a : Service.Action} (hstart : ∀ inRuntime, a ≠ .start inRuntime)
    (htick : ∀ epoch, a ≠ .tick epoch) : t.Readies [] (t.act a).1 := by
  refine ⟨rfl, ?_⟩
  have hstep := t.service.step_spec a
  rw [ready_act, hstep.started_eq_none hstart, hstep.issued_eq_nil htick]
  exact rfl

theorem finish (t : Timeline) (task : Nat) (d : Definition) (r : Reply) :
    t.Readies [] (t.finish task d r) := act t (by simp) (by simp)

theorem consult (hquiet : t.source.Quiet) (task : Nat) (d : Definition) :
    t.Readies [] (t.consult task d) := by
  have hcommand : ∀ label n, (t.source label n).command = none := hquiet
  have hnoted (asked : LabelMap Nat) : t.Readies [] ({ t with asked }.note [.asked d none]) :=
    ⟨rfl, (List.append_nil _).symm⟩
  simp only [Timeline.consult, hcommand, obey_none]
  split
  · exact (hnoted _).trans (finish _ task d _)
  · exact ⟨rfl, (List.append_nil _).symm⟩
  · exact hnoted _

theorem run_ask (hquiet : t.source.Quiet) (task : Nat) : t.Readies [] (t.run (.ask task)) := by
  have hact := act t (a := .ask task) (by simp) (by simp)
  simp only [Timeline.run]
  split
  · exact hact.trans (consult (hact.source ▸ hquiet) task _)
  · exact hact

theorem ticks (t : Timeline) (epoch count : Nat) :
    ∃ tasks, t.Readies tasks (count.repeat (·.tick epoch) t) := by
  induction count with
  | zero => exact ⟨[], refl⟩
  | succ count ih =>
      obtain ⟨tasks, h⟩ := ih
      obtain ⟨more, h'⟩ := act_tick ((count.repeat (·.tick epoch) t).note [.ticked]) epoch
      exact ⟨tasks ++ more, h.trans ⟨h'.source, h'.ready⟩⟩

theorem run (hquiet : t.source.Quiet) (job : Job) : ∃ tasks, t.Readies tasks (t.run job) := by
  cases job with
  | loop epoch due =>
      rw [Timeline.run]
      split
      · obtain ⟨tasks, h⟩ := ticks t epoch
          (t.service.poller.cadence.ticksDue (due.getD t.clock) t.clock)
        exact ⟨tasks, h.source, h.ready⟩
      · exact ⟨[], refl⟩
  | ask task => exact ⟨[], run_ask hquiet task⟩
  | reply task d r => exact ⟨[], finish t task d r⟩

theorem runAll (hquiet : t.source.Quiet) (jobs : List Job) :
    ∃ tasks, t.Readies tasks (jobs.foldl Timeline.run t) := by
  induction jobs generalizing t with
  | nil => exact ⟨[], refl⟩
  | cons job jobs ih =>
      obtain ⟨tasks, h⟩ := run hquiet job
      obtain ⟨more, h'⟩ := ih (h.source ▸ hquiet)
      exact ⟨tasks ++ more, h.trans h'⟩

theorem runAll_ask (hquiet : t.source.Quiet) (tasks : List Nat) :
    t.Readies [] ((tasks.map Job.ask).foldl Timeline.run t) := by
  induction tasks generalizing t with
  | nil => exact refl
  | cons task tasks ih =>
      have h := run_ask hquiet task
      exact h.trans (ih (h.source ▸ hquiet))

end Readies

variable {t : Timeline} {m : Metronome}

theorem ready_settle (hquiet : t.source.Quiet) (hr : t.inRuntime = true) :
    t.settle.ready = [] := by
  -- The first round leaves tasks that begin, and in the second these make nothing ready.
  obtain ⟨tasks, hsource, hready⟩ := Readies.runAll (t := { t with ready := [] }) hquiet t.ready
  change t.round.source = t.source at hsource
  change t.round.ready = _ at hready
  have hagain := Readies.runAll_ask (t := { t.round with ready := [] }) (hsource ▸ hquiet) tasks
  rw [settle, if_pos hr, round, hready]
  exact hagain.ready

theorem settle_of_ready_nil (h : t.ready = []) : t.settle = t := by
  have hround : t.round = t := by
    unfold round
    rw [h, List.foldl_nil, ← h]
  rw [settle, hround, hround, ite_self]

def occur (t : Timeline) : Occurrence → Timeline
  | .command c => (t.perform c).1
  | .advance milliseconds => t.advance milliseconds
  | .jump milliseconds => t.jump milliseconds

def follow (t : Timeline) (os : List Occurrence) : Timeline := os.foldl occur t

/-- A millisecond passes, and what it wakes runs. -/
def beat (t : Timeline) : Timeline := (t.pass 1).settle

/-- Nothing is due within some milliseconds. -/
def Idle (t : Timeline) (milliseconds : Nat) : Prop :=
  ∀ timer, t.timers.head? = some timer → t.clock + milliseconds < timer.due

namespace Idle

variable {milliseconds : Nat}

theorem pass_eq (h : t.Idle milliseconds) :
    t.pass milliseconds = { t with clock := t.clock + milliseconds } := by
  unfold Timeline.pass
  cases htimers : t.timers with
  | nil => simp
  | cons timer timers =>
      have hdue := h timer (congrArg List.head? htimers)
      simp [Nat.not_le.2 hdue]

theorem pass_pass (h : t.Idle milliseconds) (more : Nat) :
    (t.pass milliseconds).pass more = t.pass (milliseconds + more) := by
  rw [h.pass_eq, Timeline.pass, Timeline.pass]
  simp only [Nat.add_assoc]

theorem mono {fewer : Nat} (h : t.Idle milliseconds) (hle : fewer ≤ milliseconds) :
    t.Idle fewer := by
  intro timer htimer
  have hdue := h timer htimer
  omega

theorem beats_eq (h : t.Idle milliseconds) (hready : t.ready = []) :
    beat^[milliseconds] t = t.pass milliseconds := by
  induction milliseconds with
  | zero => exact h.pass_eq.symm
  | succ milliseconds ih =>
      have hbefore := h.mono (Nat.le_succ milliseconds)
      rw [Function.iterate_succ_apply', ih hbefore, beat, hbefore.pass_pass]
      apply settle_of_ready_nil
      rw [h.pass_eq]
      exact hready

end Idle

namespace KeepsTime

theorem beat (h : t.KeepsTime m) (hr : m.inRuntime = true) : t.beat.KeepsTime m.beat :=
  (h.pass 1).settle hr

theorem beats (h : t.KeepsTime m) (hr : m.inRuntime = true) (count : Nat) :
    (Timeline.beat^[count] t).KeepsTime (Metronome.beat^[count] m) := by
  induction count with
  | zero => exact h
  | succ count ih =>
      rw [Function.iterate_succ_apply', Function.iterate_succ_apply']
      exact ih.beat ((m.inRuntime_beats count).trans hr)

theorem wait_eq (h : t.KeepsTime m) {timer : Timer} (htimer : timer ∈ t.timers) :
    t.clock + t.wait timer = timer.due := by
  have hahead := h.ahead timer htimer
  unfold wait
  omega

/-- The beats up to the next timer that is due come to one step. -/
theorem beats_wait (h : t.KeepsTime m) (hready : t.ready = []) {timer : Timer}
    (htimer : t.timers.head? = some timer) :
    Timeline.beat^[t.wait timer] t = (t.pass (t.wait timer)).settle := by
  have hwait := h.wait_eq (List.mem_of_head? htimer)
  obtain ⟨before, hbefore⟩ : ∃ before, t.wait timer = before + 1 :=
    Nat.exists_eq_succ_of_ne_zero (Nat.ne_of_gt (Nat.le_max_left 1 _))
  have hidle : t.Idle before := by
    intro other hother
    obtain rfl := Option.some.inj (htimer.symm.trans hother)
    omega
  rw [hbefore, Function.iterate_succ_apply', hidle.beats_eq hready, Timeline.beat, hidle.pass_pass]

/-- As long as nothing is ready, time passes beat by beat. -/
theorem elapse_eq_beats (h : t.KeepsTime m) (hr : m.inRuntime = true) (hready : t.ready = [])
    (milliseconds : Nat) : t.elapse milliseconds = Timeline.beat^[milliseconds] t := by
  -- Each timer that becomes due ends a stretch of beats, of which only the last wakes anything.
  induction milliseconds using Nat.strongRecOn generalizing t m with
  | ind milliseconds ih =>
      rw [elapse]
      split
      · rename_i timer htimer
        split
        · rename_i hle
          have hpos : 0 < t.wait timer := Nat.le_max_left 1 _
          have hkeeps := h.beats hr (t.wait timer)
          have hwoken := h.beats_wait hready htimer
          rw [hwoken] at hkeeps
          have hquiet := (h.pass (t.wait timer)).quiet
          have hrest := ih (milliseconds - t.wait timer) (by omega) hkeeps
            ((m.inRuntime_beats _).trans hr) (ready_settle hquiet (h.inRuntime.trans hr))
          rw [hrest, ← hwoken, ← Function.iterate_add_apply, Nat.sub_add_cancel hle]
        · rename_i hlt
          have hidle : t.Idle milliseconds := by
            intro other hother
            obtain rfl := Option.some.inj (htimer.symm.trans hother)
            have hwait := h.wait_eq (List.mem_of_head? htimer)
            omega
          exact (hidle.beats_eq hready).symm
      · rename_i hnone
        have hidle : t.Idle milliseconds := by
          intro other hother
          rw [hnone] at hother
          cases hother
        exact (hidle.beats_eq hready).symm

theorem ready_beats (h : t.KeepsTime m) (hr : m.inRuntime = true) (hready : t.ready = [])
    (count : Nat) : (Timeline.beat^[count] t).ready = [] := by
  cases count with
  | zero => exact hready
  | succ count =>
      have hkeeps := (h.beats hr count).pass 1
      rw [Function.iterate_succ_apply']
      exact ready_settle hkeeps.quiet
        (hkeeps.inRuntime.trans ((m.inRuntime_beats count).trans hr))

theorem advance_eq_beats (h : t.KeepsTime m) (hr : m.inRuntime = true) (milliseconds : Nat) :
    t.advance milliseconds = Timeline.beat^[milliseconds] t.settle := by
  have hin : t.inRuntime = true := h.inRuntime.trans hr
  rw [Timeline.advance, if_pos hin]
  exact (h.settle hr).elapse_eq_beats ((m.inRuntime_settle).trans hr)
    (ready_settle h.quiet hin) milliseconds

/-- Time may be let pass in pieces. -/
theorem advance_add (h : t.KeepsTime m) (first second : Nat) :
    t.advance (first + second) = (t.advance first).advance second := by
  cases hr : m.inRuntime with
  | false =>
      have hout : t.inRuntime = false := h.inRuntime.trans hr
      simp [Timeline.advance, hout]
  | true =>
      have hin : t.inRuntime = true := h.inRuntime.trans hr
      have hsettled := (m.inRuntime_settle).trans hr
      have hready := (h.settle hr).ready_beats hsettled (ready_settle h.quiet hin) first
      have hfirst := (h.settle hr).beats hsettled first
      rw [h.advance_eq_beats hr, h.advance_eq_beats hr,
        hfirst.advance_eq_beats ((Metronome.inRuntime_beats _ first).trans hsettled),
        settle_of_ready_nil hready, ← Function.iterate_add_apply, Nat.add_comm first]

theorem occur (h : t.KeepsTime m) (o : Occurrence) : (t.occur o).KeepsTime (m.occur o) := by
  cases o with
  | command c => exact h.perform c
  | advance milliseconds =>
      rw [Timeline.occur, Metronome.occur]
      split
      · rename_i hr
        rw [h.advance_eq_beats hr]
        exact (h.settle hr).beats ((m.inRuntime_settle).trans hr) milliseconds
      · rename_i hr
        rw [Timeline.advance, h.inRuntime, if_neg hr]
        exact h
  | jump milliseconds =>
      rw [Timeline.occur, Metronome.occur, Timeline.jump, h.inRuntime]
      split
      · rename_i hr
        exact (h.pass milliseconds).settle hr
      · exact h

theorem follow (h : t.KeepsTime m) (os : List Occurrence) :
    (t.follow os).KeepsTime (m.follow os) := by
  induction os generalizing t m with
  | nil => exact h
  | cons o os ih => exact ih (h.occur o)

end KeepsTime

end Timeline

end MetricWatch
