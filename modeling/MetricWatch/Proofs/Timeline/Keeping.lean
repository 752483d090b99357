import MetricWatch.Proofs.Timeline.Metronome

/-!
A timeline keeps time with a metronome, whatever its source answers: what happens to the timeline is
matched by what the metronome does, and what has only to do with fetches is matched by nothing.
-/

namespace MetricWatch

/-- Whether a source never asks anything of the service. -/
def Source.Quiet (source : Source) : Prop := ∀ label n, (source label n).command = none

def Notice.isTick : Notice → Bool
  | ticked => true
  | asked .. => false
  | told _ => false

/-- The run that a job was started by, if it is a loop. -/
def Job.epoch : Job → Nat
  | loop epoch _ => epoch
  | ask _ => 0
  | reply .. => 0

/-- Whether a job is the loop of the run that goes on. -/
def Outline.drives (o : Outline) : Job → Bool
  | .loop epoch _ => o.running && o.epoch = epoch
  | .ask _ => false
  | .reply .. => false

namespace Standing

def jobs (epoch : Nat) : Standing → List Job
  | absent => []
  | ready due => [.loop epoch due]
  | waits _ => []

def timers (epoch : Nat) : Standing → List Timer
  | absent => []
  | ready _ => []
  | waits due => [⟨due, .loop epoch (some due)⟩]

end Standing

/-- When there were ticks. -/
def Timeline.tickTimes (t : Timeline) : List Nat :=
  (t.log.toList.filter (·.notice.isTick)).map (·.time)

/-- A timeline with a quiet source, its timers in order, and a metronome that shows the same. Of all
loops that wait, the one of the run that goes on stands where the metronome has it. -/
structure Timeline.KeepsTime (t : Timeline) (m : Metronome) : Prop where
  quiet : t.source.Quiet
  sorted : t.timers.Pairwise fun u v => u.due ≤ v.due
  ahead : ∀ timer ∈ t.timers, t.clock < timer.due
  clock : t.clock = m.clock
  inRuntime : t.inRuntime = m.inRuntime
  outline : t.service.poller.outline = m.outline
  tickTimes : t.tickTimes = m.tickTimes
  ready : t.ready.filter m.outline.drives = m.standing.jobs m.outline.epoch
  timers : t.timers.filter (m.outline.drives ·.job) = m.standing.timers m.outline.epoch
  /-- No loop is of a run that is yet to come. -/
  readyKnown : ∀ job ∈ t.ready, job.epoch ≤ m.outline.epoch
  timersKnown : ∀ timer ∈ t.timers, timer.job.epoch ≤ m.outline.epoch

namespace Outline

variable {o : Outline}

theorem drives_step (a : Service.Action) {job : Job} (hjob : job.epoch ≤ o.epoch) :
    (o.step a).drives job =
      if o.epoch < (o.step a).epoch then false
      else if (o.step a).running = o.running then o.drives job else false := by
  cases job with
  | loop epoch due =>
      have hle : epoch ≤ o.epoch := hjob
      rcases o.step_cases a with ⟨hepoch, -⟩ | ⟨hepoch, hsame⟩ | ⟨hepoch, hover, hrunning⟩
      · have hne : o.epoch + 1 ≠ epoch := by omega
        simp [drives, hepoch, hne]
      · simp [drives, hepoch, hsame]
      · simp [drives, hepoch, hover, hrunning]
  | ask | reply => simp [drives]

/-- An action leaves the loops that count, or none of them counts any more. -/
theorem filter_drives_step {α : Type} (a : Service.Action) (job : α → Job) {xs : List α}
    (hxs : ∀ x ∈ xs, (job x).epoch ≤ o.epoch) :
    xs.filter (fun x => (o.step a).drives (job x)) =
      if o.epoch < (o.step a).epoch then []
      else if (o.step a).running = o.running then xs.filter (fun x => o.drives (job x))
      else [] := by
  rw [List.filter_congr fun x hx => drives_step a (hxs x hx)]
  split
  · simp
  · split <;> simp

end Outline

namespace Timeline

section timers

variable {timer : Timer} {ts : List Timer}

theorem mem_insertTimer {u : Timer} : u ∈ insertTimer timer ts ↔ u = timer ∨ u ∈ ts := by
  induction ts with
  | nil => simp [insertTimer]
  | cons v ts ih =>
      rw [insertTimer]
      split
      · simp
      · simp [ih, or_left_comm]

theorem forall_mem_insertTimer {P : Timer → Prop} (h : P timer) (hts : ∀ u ∈ ts, P u) :
    ∀ u ∈ insertTimer timer ts, P u := by
  intro u hu
  rcases mem_insertTimer.1 hu with rfl | hu
  · exact h
  · exact hts u hu

theorem pairwise_insertTimer (h : ts.Pairwise fun u v => u.due ≤ v.due) :
    (insertTimer timer ts).Pairwise fun u v => u.due ≤ v.due := by
  induction ts with
  | nil => simp [insertTimer]
  | cons v ts ih =>
      obtain ⟨hv, hts⟩ := List.pairwise_cons.1 h
      rw [insertTimer]
      split
      · rename_i hlt
        refine List.pairwise_cons.2 ⟨?_, h⟩
        intro u hu
        rcases List.mem_cons.1 hu with rfl | hu
        · exact Nat.le_of_lt hlt
        · exact Nat.le_trans (Nat.le_of_lt hlt) (hv u hu)
      · rename_i hnot
        exact List.pairwise_cons.2 ⟨forall_mem_insertTimer (Nat.le_of_not_lt hnot) hv, ih hts⟩

variable {p : Timer → Bool}

theorem filter_insertTimer_of_neg (h : p timer = false) :
    (insertTimer timer ts).filter p = ts.filter p := by
  induction ts with
  | nil => simp [insertTimer, h]
  | cons v ts ih =>
      rw [insertTimer]
      split
      · simp [h]
      · simp [List.filter_cons, ih]

theorem filter_insertTimer_of_nil (h : p timer = true) (hts : ts.filter p = []) :
    (insertTimer timer ts).filter p = [timer] := by
  induction ts with
  | nil => simp [insertTimer, h]
  | cons v ts ih =>
      rw [List.filter_eq_nil_iff, List.forall_mem_cons] at hts
      rw [insertTimer]
      split
      · simp [h, hts.1, List.filter_eq_nil_iff.2 hts.2]
      · simp [hts.1, ih (List.filter_eq_nil_iff.2 hts.2)]

theorem span_eq_filter (h : ts.Pairwise fun u v => u.due ≤ v.due) (now : Nat) :
    ts.takeWhile (·.due ≤ now) = ts.filter (·.due ≤ now) ∧
      ts.dropWhile (·.due ≤ now) = ts.filter (now < ·.due) := by
  induction ts with
  | nil => exact ⟨rfl, rfl⟩
  | cons v ts ih =>
      obtain ⟨hv, hts⟩ := List.pairwise_cons.1 h
      by_cases hdue : v.due ≤ now
      · simp [hdue, Nat.not_lt.2 hdue, ih hts]
      · have hlate : ∀ u ∈ ts, now < u.due :=
          fun u hu => Nat.lt_of_lt_of_le (Nat.lt_of_not_le hdue) (hv u hu)
        have hnone : ts.filter (·.due ≤ now) = [] := by simpa using hlate
        have hall : ts.filter (now < ·.due) = ts := by simpa using hlate
        simp [hdue, Nat.lt_of_not_le hdue, hnone, hall]

end timers

theorem tickTimes_note (t : Timeline) (notices : List Notice) :
    (t.note notices).tickTimes =
      t.tickTimes ++ (notices.filter Notice.isTick).map fun _ => t.clock := by
  simp [tickTimes, note, List.filter_map, Function.comp_def]

theorem filter_told (deliveries : List Delivery) :
    (deliveries.map Notice.told).filter Notice.isTick = [] := by
  simp [List.filter_eq_nil_iff, Notice.isTick]

theorem tickTimes_act (t : Timeline) (a : Service.Action) :
    (t.act a).1.tickTimes = t.tickTimes := by
  refine (tickTimes_note _ _).trans ?_
  rw [filter_told, List.map_nil, List.append_nil]
  rfl

theorem ready_act (t : Timeline) (a : Service.Action) :
    (t.act a).1.ready = t.ready ++ ((t.service.step a).2.started.toList.map (Job.loop · none) ++
      (t.service.step a).2.issued.map (Job.ask ·.number)) := rfl

theorem perform_fst (t : Timeline) (c : Command) :
    (t.perform c).1 = ((c.action? t.inRuntime).map fun a => (t.act a).1).getD t := by
  cases c with
  | register name path label =>
      simp only [perform, Command.action?]
      cases Definition.make name path label with
      | ok => rfl
      | error => rfl
  | _ => rfl

theorem obey_none (t : Timeline) : t.obey none = (t, none) := rfl

variable {t : Timeline} {m : Metronome}

namespace KeepsTime

theorem note (h : t.KeepsTime m) {notices : List Notice}
    (hnotices : notices.filter Notice.isTick = []) : (t.note notices).KeepsTime m := by
  have htimes := t.tickTimes_note notices
  rw [hnotices, List.map_nil, List.append_nil] at htimes
  exact { h with tickTimes := htimes.trans h.tickTimes }

theorem started_eq (h : t.KeepsTime m) (a : Service.Action) :
    (t.service.step a).2.started =
      if m.outline.epoch < (m.outline.step a).epoch then some (m.outline.step a).epoch
      else none := by
  have hstep := t.service.step_spec a
  rw [hstep.started_eq, hstep.outline_eq, h.outline]

theorem filter_ready_act (h : t.KeepsTime m) (a : Service.Action) :
    (t.act a).1.ready.filter (m.outline.step a).drives =
      (m.act a).standing.jobs (m.outline.step a).epoch := by
  -- Tasks that begin are no loops, so that only a loop that is started counts.
  have hasks : ((t.service.step a).2.issued.map (Job.ask ·.number)).filter
      (m.outline.step a).drives = [] := by
    simp [List.filter_eq_nil_iff, Outline.drives]
  have hold := Outline.filter_drives_step a id h.readyKnown
  simp only [id_eq, h.ready] at hold
  rw [ready_act, h.started_eq, List.filter_append, List.filter_append, hasks, List.append_nil, hold,
    Metronome.act]
  rcases m.outline.step_cases a with
    ⟨hepoch, hrunning⟩ | ⟨hepoch, hsame⟩ | ⟨hepoch, hover, hrunning⟩
  · simp [hepoch, hrunning, Standing.jobs, Outline.drives]
  · simp [hepoch, hsame]
  · simp [hepoch, hover, hrunning, Standing.jobs]

theorem filter_timers_act (h : t.KeepsTime m) (a : Service.Action) :
    t.timers.filter ((m.outline.step a).drives ·.job) =
      (m.act a).standing.timers (m.outline.step a).epoch := by
  rw [Outline.filter_drives_step a Timer.job h.timersKnown, h.timers, Metronome.act]
  rcases m.outline.step_cases a with ⟨hepoch, -⟩ | ⟨hepoch, hsame⟩ | ⟨hepoch, hover, hrunning⟩
  · simp [hepoch, Standing.timers]
  · simp [hepoch, hsame]
  · simp [hepoch, hover, hrunning, Standing.timers]

theorem act (h : t.KeepsTime m) (a : Service.Action) : (t.act a).1.KeepsTime (m.act a) := by
  have hepoch := m.outline.epoch_le_step a
  constructor
  · exact h.quiet
  · exact h.sorted
  · exact h.ahead
  · exact h.clock
  · exact h.inRuntime
  · exact (t.service.step_spec a).outline_eq.trans (congrArg (·.step a) h.outline)
  · exact (t.tickTimes_act a).trans h.tickTimes
  · exact h.filter_ready_act a
  · exact h.filter_timers_act a
  · rw [ready_act, h.started_eq]
    intro job hjob
    simp only [List.mem_append, List.mem_map, Option.mem_toList] at hjob
    rcases hjob with hjob | ⟨epoch, hstarted, rfl⟩ | ⟨task, -, rfl⟩
    · exact Nat.le_trans (h.readyKnown job hjob) hepoch
    · split at hstarted
      · exact Nat.le_of_eq (Option.some.inj hstarted).symm
      · cases hstarted
    · exact Nat.zero_le _
  · exact fun timer htimer => Nat.le_trans (h.timersKnown timer htimer) hepoch

theorem putOff_reply (h : t.KeepsTime m) {due : Nat} (hdue : t.clock < due) (task : Nat)
    (d : Definition) (r : Reply) : (t.putOff due (.reply task d r)).KeepsTime m := by
  have hfilter : (insertTimer ⟨due, .reply task d r⟩ t.timers).filter (m.outline.drives ·.job) =
      t.timers.filter (m.outline.drives ·.job) := filter_insertTimer_of_neg rfl
  exact { h with
    sorted := pairwise_insertTimer h.sorted
    ahead := forall_mem_insertTimer hdue h.ahead
    timers := hfilter.trans h.timers
    timersKnown := forall_mem_insertTimer (Nat.zero_le _) h.timersKnown }

theorem putOff_loop (h : t.KeepsTime m) (habsent : m.standing = .absent)
    (hrunning : m.outline.running = true) {due : Nat} (hdue : t.clock < due) :
    (t.putOff due (.loop m.outline.epoch (some due))).KeepsTime
      { m with standing := .waits due } := by
  have hready := h.ready
  have htimers := h.timers
  rw [habsent] at hready htimers
  have hdrives : m.outline.drives (.loop m.outline.epoch (some due)) = true := by
    simp [Outline.drives, hrunning]
  exact { h with
    sorted := pairwise_insertTimer h.sorted
    ahead := forall_mem_insertTimer hdue h.ahead
    ready := hready
    timers := filter_insertTimer_of_nil hdrives htimers
    timersKnown := forall_mem_insertTimer (Nat.le_refl _) h.timersKnown }

/-! A tick counts and is noted, and the loop then waits for the next. -/

theorem tick (h : t.KeepsTime m) (hrunning : m.outline.running = true) :
    (t.tick m.outline.epoch).KeepsTime { m with
      outline := { m.outline with ticks := m.outline.ticks + 1 }
      tickTimes := m.tickTimes ++ [m.clock] } := by
  have htimes : (t.note [.ticked]).tickTimes = m.tickTimes ++ [m.clock] := by
    rw [tickTimes_note, h.tickTimes, h.clock]
    rfl
  have hnoted : (t.note [.ticked]).KeepsTime { m with tickTimes := m.tickTimes ++ [m.clock] } :=
    { h with tickTimes := htimes }
  have hacted := hnoted.act (.tick m.outline.epoch)
  rw [Metronome.act_tick (m := { m with tickTimes := m.tickTimes ++ [m.clock] }) hrunning] at hacted
  exact hacted

theorem ticks (h : t.KeepsTime m) (hrunning : m.outline.running = true) (count : Nat) :
    (count.repeat (·.tick m.outline.epoch) t).KeepsTime { m with
      outline := { m.outline with ticks := m.outline.ticks + count }
      tickTimes := m.tickTimes ++ List.replicate count m.clock } := by
  induction count with
  | zero =>
      rw [List.replicate_zero, List.append_nil]
      exact h
  | succ count ih =>
      have htick := ih.tick hrunning
      rw [List.replicate_succ', ← List.append_assoc]
      exact htick

theorem runLoop (h : t.KeepsTime m) (habsent : m.standing = .absent)
    (hrunning : m.outline.running = true) (due : Nat) :
    (t.runLoop m.outline.epoch due).KeepsTime (m.strike due) := by
  have hcadence : t.service.poller.cadence = m.outline.cadence :=
    congrArg Outline.cadence h.outline
  have hticks := h.ticks hrunning (m.outline.cadence.ticksDue due m.clock)
  have hlt := m.outline.cadence.lt_next due m.clock
  rw [Timeline.runLoop, hcadence, h.clock]
  exact hticks.putOff_loop habsent hrunning (Nat.lt_of_le_of_lt (Nat.le_of_eq hticks.clock) hlt)

/-! Everything else that runs has to do with fetches, or is the loop of a run that has ended. -/

theorem isCurrent_eq (h : t.KeepsTime m) (epoch : Nat) (due : Option Nat) :
    t.service.poller.isCurrent epoch = m.outline.drives (.loop epoch due) := by
  rw [← h.outline]
  rfl

theorem act_of_step_eq (h : t.KeepsTime m) {a : Service.Action}
    (ha : m.outline.step a = m.outline) : (t.act a).1.KeepsTime m :=
  Metronome.act_of_step_eq ha ▸ h.act a

theorem finish (h : t.KeepsTime m) (task : Nat) (d : Definition) (r : Reply) :
    (t.finish task d r).KeepsTime m := h.act_of_step_eq rfl

theorem consult (h : t.KeepsTime m) (task : Nat) (d : Definition) :
    (t.consult task d).KeepsTime m := by
  have hquiet : ∀ label n, (t.source label n).command = none := h.quiet
  have hcounted (asked : LabelMap Nat) : { t with asked }.KeepsTime m := { h with }
  have hnoted (asked : LabelMap Nat) : ({ t with asked }.note [.asked d none]).KeepsTime m :=
    (hcounted asked).note rfl
  simp only [Timeline.consult, hquiet, obey_none]
  split
  · exact (hnoted _).finish task d _
  · rename_i delay hzero _
    exact (hnoted _).putOff_reply (Nat.lt_add_of_pos_right (Nat.pos_of_ne_zero hzero)) task d _
  · exact hnoted _

theorem run_of_not_drives (h : t.KeepsTime m) {job : Job} (hjob : m.outline.drives job = false) :
    (t.run job).KeepsTime m := by
  cases job with
  | loop epoch due =>
      rw [run, h.isCurrent_eq epoch due, hjob]
      exact h
  | ask task =>
      have hacted : (t.act (.ask task)).1.KeepsTime m := h.act_of_step_eq rfl
      simp only [run]
      split
      · exact hacted.consult task _
      · exact hacted
  | reply task d r => exact h.finish task d r

theorem runAll_of_not_drives (h : t.KeepsTime m) {jobs : List Job}
    (hjobs : jobs.filter m.outline.drives = []) : (jobs.foldl Timeline.run t).KeepsTime m := by
  induction jobs generalizing t with
  | nil => exact h
  | cons job jobs ih =>
      rw [List.filter_eq_nil_iff, List.forall_mem_cons] at hjobs
      have hjob := Bool.eq_false_iff.2 hjobs.1
      exact ih (h.run_of_not_drives hjob) (List.filter_eq_nil_iff.2 hjobs.2)

/-- Of all jobs that run in turn, the loop of the run that goes on is the only one that shows. -/
theorem runAll_of_drives (h : t.KeepsTime m) (habsent : m.standing = .absent) {jobs : List Job}
    {due : Option Nat} (hjobs : jobs.filter m.outline.drives = [.loop m.outline.epoch due]) :
    (jobs.foldl Timeline.run t).KeepsTime (m.strike (due.getD m.clock)) := by
  obtain ⟨before, after, rfl, hbefore, hdrives, hafter⟩ := List.filter_eq_cons_iff.1 hjobs
  have hrunning : m.outline.running = true := by
    rw [Outline.drives, Bool.and_eq_true] at hdrives
    exact hdrives.1
  have hmiddle := h.runAll_of_not_drives (List.filter_eq_nil_iff.2 hbefore)
  have hloop := hmiddle.runLoop habsent hrunning (due.getD m.clock)
  rw [List.foldl_append, List.foldl_cons, Timeline.run, hmiddle.isCurrent_eq _ due, hdrives,
    hmiddle.clock]
  exact hloop.runAll_of_not_drives hafter

theorem round (h : t.KeepsTime m) : t.round.KeepsTime m.settle := by
  have hready := h.ready
  have htimers := h.timers
  cases hstanding : m.standing with
  | ready due =>
      rw [hstanding] at hready htimers
      -- The loop of the run that goes on is taken off the jobs and put off when it has run.
      have hwork : { t with ready := [] }.KeepsTime { m with standing := .absent } :=
        { h with ready := rfl, timers := htimers, readyKnown := by simp }
      rw [Metronome.settle, hstanding]
      exact hwork.runAll_of_drives rfl hready
  | absent | waits due =>
      rw [hstanding] at hready
      have hwork : { t with ready := [] }.KeepsTime m :=
        { h with ready := by rw [hstanding]; rfl, readyKnown := by simp }
      rw [Metronome.settle, hstanding]
      exact hwork.runAll_of_not_drives hready

theorem settle (h : t.KeepsTime m) (hr : m.inRuntime = true) : t.settle.KeepsTime m.settle := by
  rw [Timeline.settle, if_pos (h.inRuntime.trans hr), ← m.settle_settle]
  exact h.round.round

theorem pass (h : t.KeepsTime m) (milliseconds : Nat) :
    (t.pass milliseconds).KeepsTime (m.pass milliseconds) := by
  obtain ⟨htake, hdrop⟩ := span_eq_filter h.sorted (t.clock + milliseconds)
  have hfilter (p : Timer → Bool) : (t.timers.filter p).filter (m.outline.drives ·.job) =
      (m.standing.timers m.outline.epoch).filter p := by
    rw [← h.timers, List.filter_filter, List.filter_filter]
    simp only [Bool.and_comm]
  rw [Timeline.pass, htake, hdrop]
  constructor
  · exact h.quiet
  · exact h.sorted.filter _
  · simp
  · exact congrArg (· + milliseconds) h.clock
  · exact h.inRuntime
  · exact h.outline
  · exact h.tickTimes
  · have hwoken := congrArg (List.map Timer.job) (hfilter (·.due ≤ t.clock + milliseconds))
    rw [List.filter_append, List.filter_map]
    refine (congrArg₂ (· ++ ·) h.ready hwoken).trans ?_
    rw [Metronome.pass, h.clock]
    cases m.standing with
    | absent => rfl
    | ready due => rfl
    | waits due =>
        by_cases hdue : due ≤ m.clock + milliseconds
        · simp [Standing.jobs, Standing.timers, hdue]
        · simp [Standing.jobs, Standing.timers, hdue]
  · refine (hfilter (t.clock + milliseconds < ·.due)).trans ?_
    rw [Metronome.pass, h.clock]
    cases m.standing with
    | absent => rfl
    | ready due => rfl
    | waits due =>
        by_cases hdue : due ≤ m.clock + milliseconds
        · simp [Standing.timers, hdue]
        · simp [Standing.timers, hdue, Nat.lt_of_not_le hdue]
  · intro job hjob
    rcases List.mem_append.1 hjob with hjob | hjob
    · exact h.readyKnown job hjob
    · obtain ⟨timer, htimer, rfl⟩ := List.mem_map.1 hjob
      exact h.timersKnown timer (List.mem_of_mem_filter htimer)
  · exact fun timer htimer => h.timersKnown timer (List.mem_of_mem_filter htimer)

theorem perform (h : t.KeepsTime m) (c : Command) : (t.perform c).1.KeepsTime (m.perform c) := by
  rw [perform_fst, Metronome.perform, h.inRuntime]
  cases c.action? m.inRuntime with
  | none => exact h
  | some a => exact h.act a

end KeepsTime

end Timeline

end MetricWatch
