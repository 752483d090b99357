import Mathlib.Algebra.Ring.Nat
import Mathlib.Logic.Function.Iterate
import MetricWatch.Poll.Timeline
import MetricWatch.Proofs.Poll.Outline

/-!
A metronome: what is left of a timeline when all that has to do with fetches is taken away. There is
a clock, the outline of the poller, and the one tick loop that counts. While time passes it goes by
beats of a millisecond. The ticks of a run stand on a grid that begins at its start.
-/

namespace MetricWatch

/-- Something that is done to a timeline. -/
inductive Occurrence where
  | command (c : Command)
  | advance (milliseconds : Nat)
  | jump (milliseconds : Nat)

namespace Occurrence

/-- The milliseconds that pass. -/
def span : Occurrence → Nat
  | command _ => 0
  | advance milliseconds => milliseconds
  | jump milliseconds => milliseconds

def isAdvance : Occurrence → Bool
  | command _ => false
  | advance _ => true
  | jump _ => false

def isJump : Occurrence → Bool
  | command _ => false
  | advance _ => false
  | jump _ => true

end Occurrence

/-- The action that carries out a command, if there is one. -/
def Command.action? (inRuntime : Bool) : Command → Option Service.Action
  | register name path label => (Definition.make name path label).toOption.map .register
  | unregister label => some (.unregister label)
  | start => some (.start inRuntime)
  | stop => some .stop
  | registry a => some (.registry a)
  | query q => some (.query q)

theorem Command.of_action? {inRuntime : Bool} {c : Command} {a : Service.Action}
    (h : c.action? inRuntime = some a) : (a = .stop → c = .stop) ∧ ∀ epoch, a ≠ .tick epoch := by
  cases c with
  | register name path label =>
      obtain ⟨d, -, rfl⟩ := Option.map_eq_some_iff.1 h
      simp
  | _ =>
      obtain rfl := Option.some.inj h
      simp

namespace Cadence

variable (c : Cadence)

/-- The milliseconds between two ticks as they are kept: no timer is set beyond the horizon. -/
def spacing : Nat := min c.interval.toNat horizon

theorem interval_pos : 0 < c.interval.toNat :=
  Nat.pos_of_ne_zero fun h => c.interval_ne_zero (UInt64.toNat_inj.1 h)

theorem spacing_pos : 0 < c.spacing := Nat.lt_min.2 ⟨c.interval_pos, by decide⟩

theorem lt_next (due now : Nat) : now < c.next due now := by
  have hpos := c.interval_pos
  apply Nat.lt_min.2
  constructor
  · unfold nextOnGrid
    split
    · have hmod := Nat.lt_div_mul_add hpos (a := now - due)
      rw [Nat.add_mul, Nat.one_mul]
      omega
    · have hmod := Nat.mod_lt (now - due) hpos
      omega
  · exact Nat.lt_add_of_pos_right (by decide)

theorem ticksDue_self (now : Nat) : c.ticksDue now now = 1 := by
  simp [ticksDue, grace]

theorem next_self (now : Nat) : c.next now now = now + c.spacing := by
  simp [next, nextOnGrid, grace, spacing, Nat.add_min_add_left]

/-- With more than thirty years from tick to tick, the next one comes when the timer has run out. -/
example : (⟨1000000000000, 5, by decide, by decide⟩ : Cadence).next 0 0 = 946080000000 := by decide

end Cadence

/-- Where the tick loop of the run that goes on stands. -/
inductive Standing where
  /-- There is none, or it is at work. -/
  | absent
  /-- It runs next. Its tick was due then, or is due when it first runs. -/
  | ready (due : Option Nat)
  | waits (due : Nat)

structure Metronome where
  clock : Nat := 0
  inRuntime : Bool
  outline : Outline
  standing : Standing := .absent
  tickTimes : List Nat := []

namespace Metronome

def begun (c : Cadence) (inRuntime : Bool) : Metronome where
  inRuntime := inRuntime
  outline := Poller.outline { cadence := c }

def act (m : Metronome) (a : Service.Action) : Metronome :=
  let outline := m.outline.step a
  { m with
    outline
    standing :=
      if m.outline.epoch < outline.epoch then .ready none
      else if outline.running = m.outline.running then m.standing
      else .absent }

/-- Makes the ticks that are due when the next was due at `due`, and waits for the one after. -/
def strike (m : Metronome) (due : Nat) : Metronome :=
  let count := m.outline.cadence.ticksDue due m.clock
  { m with
    outline := { m.outline with ticks := m.outline.ticks + count }
    standing := .waits (m.outline.cadence.next due m.clock)
    tickTimes := m.tickTimes ++ List.replicate count m.clock }

def settle (m : Metronome) : Metronome :=
  match m.standing with
  | .ready due => m.strike (due.getD m.clock)
  | _ => m

def pass (m : Metronome) (milliseconds : Nat) : Metronome :=
  let now := m.clock + milliseconds
  { m with
    clock := now
    standing :=
      match m.standing with
      | .waits due => if due ≤ now then .ready (some due) else .waits due
      | s => s }

def beat (m : Metronome) : Metronome := (m.pass 1).settle

def perform (m : Metronome) (c : Command) : Metronome := ((c.action? m.inRuntime).map m.act).getD m

def occur (m : Metronome) : Occurrence → Metronome
  | .command c => m.perform c
  | .advance milliseconds => if m.inRuntime then beat^[milliseconds] m.settle else m
  | .jump milliseconds => if m.inRuntime then (m.pass milliseconds).settle else m

def follow (m : Metronome) (os : List Occurrence) : Metronome := os.foldl occur m

theorem follow_concat (m : Metronome) (os : List Occurrence) (o : Occurrence) :
    m.follow (os ++ [o]) = (m.follow os).occur o := List.foldl_concat _ _ _ _

/-- Whether a run goes on, and how often it ticks. -/
structure Going (m : Metronome) (c : Cadence) : Prop where
  inRuntime : m.inRuntime = true
  cadence : m.outline.cadence = c
  running : m.outline.running = true
  held : m.outline.loop.isSome = true

/-- The loop has made `n` ticks since `s` and waits for the next. -/
structure Ticking (m : Metronome) (c : Cadence) (s : Nat) (earlier : List Nat) (n : Nat) :
    Prop where
  standing : m.standing = .waits (s + n * c.spacing)
  reached : s + n * c.spacing ≤ m.clock + c.spacing
  ahead : m.clock < s + n * c.spacing
  tickTimes : m.tickTimes = earlier ++ (List.range n).map (s + · * c.spacing)

variable {m : Metronome} {c : Cadence} {s n : Nat} {earlier : List Nat}

theorem act_of_step_eq {a : Service.Action} (h : m.outline.step a = m.outline) : m.act a = m := by
  simp [act, h]

theorem act_tick (hrunning : m.outline.running = true) :
    m.act (.tick m.outline.epoch) =
      { m with outline := { m.outline with ticks := m.outline.ticks + 1 } } := by
  simp [act, Outline.step, hrunning]

theorem act_of_going (hm : m.Going c) {a : Service.Action} (ha : a ≠ .stop) :
    m.act a = { m with outline := m.outline.step a } := by
  obtain ⟨hrunning, -, hepoch⟩ := Outline.step_going hm.held ha
  simp [act, hrunning, hepoch]

theorem Going.act (hm : m.Going c) {a : Service.Action} (ha : a ≠ .stop) : (m.act a).Going c := by
  obtain ⟨hrunning, hloop, -⟩ := Outline.step_going hm.held ha
  rw [act_of_going hm ha]
  exact ⟨hm.inRuntime, (m.outline.cadence_step a).trans hm.cadence, hrunning.trans hm.running,
    (congrArg Option.isSome hloop).trans hm.held⟩

theorem strike_clock (hm : m.outline.cadence = c) :
    m.strike m.clock = { m with
      outline := { m.outline with ticks := m.outline.ticks + 1 }
      standing := .waits (m.clock + c.spacing)
      tickTimes := m.tickTimes ++ [m.clock] } := by
  rw [strike, hm, Cadence.ticksDue_self, Cadence.next_self]
  rfl

theorem Going.strike (hm : m.Going c) (due : Nat) : (m.strike due).Going c :=
  ⟨hm.inRuntime, hm.cadence, hm.running, hm.held⟩

theorem Going.settle (hm : m.Going c) : m.settle.Going c := by
  unfold Metronome.settle
  split
  · exact hm.strike _
  · exact hm

theorem Going.beat (hm : m.Going c) : m.beat.Going c :=
  Going.settle ⟨hm.inRuntime, hm.cadence, hm.running, hm.held⟩

theorem perform_of_going (hm : m.Going c) {command : Command} (hcommand : command ≠ .stop) :
    ∃ outline, m.perform command = { m with outline } ∧ (m.perform command).Going c := by
  unfold perform
  cases haction : command.action? m.inRuntime with
  | none => exact ⟨m.outline, rfl, hm⟩
  | some a =>
      have ha : a ≠ .stop := mt (Command.of_action? haction).1 hcommand
      exact ⟨m.outline.step a, act_of_going hm ha, hm.act ha⟩

theorem ticking_settle (hm : m.Going c) (hstanding : m.standing = .ready none) :
    m.settle.Ticking c m.clock m.tickTimes 1 := by
  have hsettle : m.settle = m.strike m.clock := by
    rw [Metronome.settle, hstanding]
    rfl
  rw [hsettle, strike_clock hm.cadence]
  constructor
  · simp
  · simp
  · simp [c.spacing_pos]
  · simp

theorem Ticking.settle_eq (h : m.Ticking c s earlier n) : m.settle = m := by
  rw [Metronome.settle, h.standing]

theorem Ticking.beat (hm : m.Going c) (h : m.Ticking c s earlier n) :
    ∃ n, m.beat.Ticking c s earlier n := by
  have hpos := c.spacing_pos
  by_cases hdue : s + n * c.spacing ≤ m.clock + 1
  · -- The beat ends when the tick is due.
    have hclock : s + n * c.spacing = m.clock + 1 := Nat.le_antisymm hdue h.ahead
    have hbeat : m.beat = (m.pass 1).strike (m.pass 1).clock := by
      rw [Metronome.beat, Metronome.settle, pass, h.standing]
      simp [hclock]
    refine ⟨n + 1, ?_⟩
    rw [hbeat, strike_clock (m := m.pass 1) hm.cadence]
    constructor
    · simp [pass, Nat.add_mul, hclock, ← Nat.add_assoc]
    · simp [pass, Nat.add_mul, hclock, ← Nat.add_assoc]
    · simp [pass, Nat.add_mul, ← Nat.add_assoc, hclock, hpos]
    · simp [pass, h.tickTimes, List.range_succ, hclock]
  · have hbeat : m.beat = m.pass 1 := by
      rw [Metronome.beat, Metronome.settle, pass, h.standing]
      simp [hdue]
    refine ⟨n, ?_⟩
    rw [hbeat]
    constructor
    · simp [pass, h.standing, hdue]
    · exact Nat.le_trans h.reached (Nat.add_le_add_right (Nat.le_succ _) _)
    · exact Nat.lt_of_not_le hdue
    · exact h.tickTimes

theorem Ticking.beats (hm : m.Going c) (h : m.Ticking c s earlier n) (count : Nat) :
    (Metronome.beat^[count] m).Going c ∧ ∃ n, (Metronome.beat^[count] m).Ticking c s earlier n := by
  refine Function.Iterate.rec (fun m => Going m c ∧ ∃ n, Ticking m c s earlier n) ⟨hm, n, h⟩ ?_
    count
  rintro m ⟨hgoing, _, hticking⟩
  exact ⟨hgoing.beat, hticking.beat hgoing⟩

theorem settle_settle (m : Metronome) : m.settle.settle = m.settle := by
  cases hstanding : m.standing with
  | ready due => simp [settle, hstanding, strike]
  | absent | waits due => simp [settle, hstanding]

theorem clock_settle (m : Metronome) : m.settle.clock = m.clock := by
  unfold settle
  split <;> rfl

theorem clock_beats (m : Metronome) (count : Nat) : (beat^[count] m).clock = m.clock + count := by
  induction count with
  | zero => rfl
  | succ count ih =>
      rw [Function.iterate_succ_apply', beat, clock_settle, pass, ih]
      rfl

theorem inRuntime_settle (m : Metronome) : m.settle.inRuntime = m.inRuntime := by
  unfold settle
  split <;> rfl

theorem inRuntime_beats (m : Metronome) (count : Nat) :
    (beat^[count] m).inRuntime = m.inRuntime :=
  Function.Iterate.rec (inRuntime · = m.inRuntime) rfl
    (fun before h => (before.pass 1).inRuntime_settle.trans h) count

/-- Where a run stands that was started at `s`: its loop has not run yet, or it ticks. -/
inductive OnGrid (c : Cadence) (s : Nat) (earlier : List Nat) (m : Metronome) : Bool → Prop where
  | begun (standing : m.standing = .ready none) (clock : m.clock = s)
      (tickTimes : m.tickTimes = earlier) : OnGrid c s earlier m false
  | ticking {n : Nat} (ticking : m.Ticking c s earlier n) : OnGrid c s earlier m true

theorem OnGrid.settle {advanced : Bool} (hm : m.Going c) (h : OnGrid c s earlier m advanced) :
    ∃ n, m.settle.Ticking c s earlier n := by
  cases h with
  | begun standing clock tickTimes =>
      subst clock tickTimes
      exact ⟨1, ticking_settle hm standing⟩
  | ticking h => exact ⟨_, h.settle_eq.symm ▸ h⟩

theorem OnGrid.occur {advanced : Bool} (hm : m.Going c) (h : OnGrid c s earlier m advanced)
    {o : Occurrence} (hstop : o ≠ .command .stop) (hjump : o.isJump = false) :
    (m.occur o).Going c ∧ (m.occur o).clock = m.clock + o.span ∧
      OnGrid c s earlier (m.occur o) (advanced || o.isAdvance) := by
  cases o with
  | command command =>
      have hcommand : command ≠ .stop := fun hc => hstop (congrArg _ hc)
      obtain ⟨outline, heq, hgoing⟩ := perform_of_going hm hcommand
      have hoccur : m.occur (.command command) = { m with outline } := heq
      refine ⟨hgoing, by rw [hoccur]; rfl, ?_⟩
      rw [hoccur, Occurrence.isAdvance, Bool.or_false]
      cases h with
      | begun standing clock tickTimes => exact .begun standing clock tickTimes
      | ticking h => exact .ticking ⟨h.standing, h.reached, h.ahead, h.tickTimes⟩
  | advance milliseconds =>
      have hoccur : m.occur (.advance milliseconds) = beat^[milliseconds] m.settle :=
        if_pos hm.inRuntime
      obtain ⟨_, hsettle⟩ := h.settle hm
      obtain ⟨hgoing, _, hticking⟩ := hsettle.beats hm.settle milliseconds
      rw [hoccur, clock_beats, clock_settle, Occurrence.isAdvance, Bool.or_true]
      exact ⟨hgoing, rfl, .ticking hticking⟩
  | jump => cases hjump

theorem OnGrid.follow (hm : m.Going c) (h : OnGrid c s earlier m false)
    {os : List Occurrence} (hstop : .command .stop ∉ os) (hjump : os.any (·.isJump) = false) :
    (m.follow os).Going c ∧ (m.follow os).clock = m.clock + (os.map (·.span)).sum ∧
      OnGrid c s earlier (m.follow os) (os.any (·.isAdvance)) := by
  induction os using List.reverseRecOn with
  | nil => exact ⟨hm, rfl, h⟩
  | append_singleton os o ih =>
      rw [List.mem_append, List.mem_singleton, not_or] at hstop
      rw [List.any_append, Bool.or_eq_false_iff] at hjump
      obtain ⟨hgoing, hclock, hgrid⟩ := ih hstop.1 hjump.1
      obtain ⟨hgoing, hspan, hgrid⟩ := hgrid.occur hgoing (Ne.symm hstop.2) (by simpa using hjump.2)
      rw [follow_concat]
      refine ⟨hgoing, ?_, ?_⟩
      · rw [hspan, hclock, List.map_append, List.sum_append, Nat.add_assoc]
        simp
      · simpa using hgrid

/-- The ticks of a run are told by how long ago it was started. -/
theorem OnGrid.tickTimes_eq {advanced : Bool} {time : Nat} (h : OnGrid c s earlier m advanced)
    (hclock : m.clock = s + time) :
    m.tickTimes = earlier ++
      (List.range (if advanced then time / c.spacing + 1 else 0)).map (s + · * c.spacing) := by
  cases h with
  | begun standing clock tickTimes => simpa using tickTimes
  | @ticking n h =>
      have hreached := h.reached
      have hahead := h.ahead
      rw [hclock] at hreached hahead
      obtain ⟨n, rfl⟩ : ∃ k, n = k + 1 := by
        apply Nat.exists_eq_succ_of_ne_zero
        rintro rfl
        omega
      have hn : time / c.spacing = n := by
        apply Nat.div_eq_of_lt_le
        · rw [Nat.add_mul] at hreached
          omega
        · omega
      rw [h.tickTimes, if_pos rfl, hn]

theorem going_of_start (hm : m.outline.cadence = c) (hloop : m.outline.loop = none)
    (hr : m.inRuntime = true) :
    (m.perform .start).Going c ∧ (m.perform .start).clock = m.clock ∧
      OnGrid c m.clock m.tickTimes (m.perform .start) false := by
  have hstart : m.outline.step (.start true) = { m.outline with
      running := true, epoch := m.outline.epoch + 1, loop := some (m.outline.epoch + 1) } :=
    if_pos ⟨hloop, rfl⟩
  have hperform : m.perform .start = m.act (.start true) := by
    rw [perform, Command.action?, hr]
    rfl
  rw [hperform, act, hstart]
  refine ⟨⟨hr, hm, rfl, rfl⟩, rfl, .begun ?_ rfl rfl⟩
  simp

/-- A metronome of a cadence, which counts the ticks that it notes. -/
structure Exact (m : Metronome) (c : Cadence) : Prop where
  cadence : m.outline.cadence = c
  counted : m.outline.ticks = m.tickTimes.length

namespace Exact

theorem strike (h : m.Exact c) (due : Nat) : (m.strike due).Exact c where
  cadence := h.cadence
  counted := by simp [Metronome.strike, h.counted]

theorem settle (h : m.Exact c) : m.settle.Exact c := by
  unfold Metronome.settle
  split
  · exact h.strike _
  · exact h

theorem pass (h : m.Exact c) (milliseconds : Nat) : (m.pass milliseconds).Exact c :=
  ⟨h.cadence, h.counted⟩

theorem beats (h : m.Exact c) (count : Nat) : (beat^[count] m).Exact c :=
  Function.Iterate.rec (Exact · c) h (fun _ h => (h.pass 1).settle) count

theorem perform (h : m.Exact c) (command : Command) : (m.perform command).Exact c := by
  unfold Metronome.perform
  cases haction : command.action? m.inRuntime with
  | none => exact h
  | some a =>
      have htick := (Command.of_action? haction).2
      exact ⟨(m.outline.cadence_step a).trans h.cadence,
        (m.outline.ticks_step htick).trans h.counted⟩

theorem follow (h : m.Exact c) (os : List Occurrence) : (m.follow os).Exact c := by
  induction os using List.reverseRecOn with
  | nil => exact h
  | append_singleton os o ih =>
      rw [follow_concat]
      cases o with
      | command command => exact ih.perform command
      | advance milliseconds =>
          rw [occur]
          split
          · exact ih.settle.beats milliseconds
          · exact ih
      | jump milliseconds =>
          rw [occur]
          split
          · exact (ih.pass milliseconds).settle
          · exact ih

end Exact

end Metronome

end MetricWatch
