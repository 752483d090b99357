import MetricWatch.Proofs.Poll.Run
import MetricWatch.Proofs.Timeline.Beats

/-!
Ticks do not depend on fetches. What a source answers, when, and whether at all, sways neither when
a service ticks, nor how it counts its ticks, nor its definitions and their generations; and the
ticks of a run stand on a grid that begins at its start.
-/

namespace MetricWatch

namespace Timeline

/-- A service that has just been created, and its source. -/
def begun (c : Cadence) (r : Registry) (source : Source) (inRuntime : Bool) : Timeline where
  service := Service.fresh c r
  source := source
  inRuntime := inRuntime

/-- Whether a run can be started now. -/
def Starts (t : Timeline) : Prop := (t.perform .start).2 = .outcome (.ok ())

/-- What two timelines have in common if their ticks do not depend on what their sources answer. -/
structure Alike (t u : Timeline) : Prop where
  clock : t.clock = u.clock
  tickTimes : t.tickTimes = u.tickTimes
  ticks : t.service.poller.ledger.ticks = u.service.poller.ledger.ticks
  definitions : t.service.poller.definitions = u.service.poller.definitions
  generations : t.service.poller.ledger.generations = u.service.poller.ledger.generations
  generation : ∀ label,
    t.service.poller.ledger.generation? label = u.service.poller.ledger.generation? label
  /-- Each tick has been counted when it was made. -/
  counted : t.service.poller.ledger.ticks = t.tickTimes.length

variable {t u : Timeline} {m : Metronome} {c : Cadence}

theorem keepsTime_begun {source : Source} (hquiet : source.Quiet) (c : Cadence) (r : Registry)
    (inRuntime : Bool) : (begun c r source inRuntime).KeepsTime (.begun c inRuntime) where
  quiet := hquiet
  sorted := .nil
  ahead := by simp [begun]
  clock := rfl
  inRuntime := rfl
  outline := rfl
  tickTimes := rfl
  ready := rfl
  timers := rfl
  readyKnown := by simp [begun]
  timersKnown := by simp [begun]

theorem KeepsTime.alike (ht : t.KeepsTime m) (hu : u.KeepsTime m) (hm : m.Exact c) :
    t.Alike u := by
  have houtline := ht.outline.trans hu.outline.symm
  constructor
  · exact ht.clock.trans hu.clock.symm
  · exact ht.tickTimes.trans hu.tickTimes.symm
  · exact congrArg Outline.ticks houtline
  · exact congrArg Outline.definitions houtline
  · exact congrArg Outline.generations houtline
  · exact fun label => congrFun (congrArg Outline.generation? houtline) label
  · rw [ht.tickTimes, ← hm.counted, ← ht.outline]
    rfl

theorem KeepsTime.tickTimes_of_starts (h : t.KeepsTime m) (hm : m.Exact c) (hstarts : t.Starts)
    {during : List Occurrence} (hstop : .command .stop ∉ during)
    (hjump : during.any (·.isJump) = false) :
    (t.follow (.command .start :: during)).tickTimes = t.tickTimes ++
      (List.range (if during.any (·.isAdvance) then (during.map (·.span)).sum / c.spacing + 1
        else 0)).map (t.clock + · * c.spacing) := by
  obtain ⟨hloop, hr⟩ := Service.idle_of_started hstarts
  have hidle : m.outline.loop = none := (congrArg Outline.loop h.outline).symm.trans hloop
  obtain ⟨hgoing, hclock, hgrid⟩ :=
    Metronome.going_of_start hm.cadence hidle (h.inRuntime.symm.trans hr)
  obtain ⟨-, hspan, hgrid⟩ := hgrid.follow hgoing hstop hjump
  rw [(h.follow (.command .start :: during)).tickTimes, h.tickTimes, h.clock]
  exact hgrid.tickTimes_eq (hspan.trans (congrArg (· + _) hclock))

/-- Whatever two sources answer, and however long that takes them, as long as they ask nothing of
the service: after every schedule the two services have ticked at the same times, counted the same
ticks, and have the same definitions and generations. A schedule can be broken off at any time of an
`advance`, so that this holds at every time. As long as the clock does not jump, the ticks of a run
stand on a grid that begins at its start; its spacing is the interval, unless no timer can be set for
that long. -/
theorem ticks_unswayed (c : Cadence) (r : Registry) (inRuntime : Bool) {source other : Source}
    (hsource : source.Quiet) (hother : other.Quiet) :
    (∀ os, ((begun c r source inRuntime).follow os).Alike ((begun c r other inRuntime).follow os)) ∧
      (∀ os first second, (begun c r source inRuntime).follow (os ++ [.advance (first + second)]) =
        (begun c r source inRuntime).follow (os ++ [.advance first, .advance second])) ∧
      (∀ before during, ((begun c r source inRuntime).follow before).Starts →
        .command .stop ∉ during → during.any (·.isJump) = false →
        ((begun c r source inRuntime).follow (before ++ .command .start :: during)).tickTimes =
          ((begun c r source inRuntime).follow before).tickTimes ++
            (List.range (if during.any (·.isAdvance) then
              (during.map (·.span)).sum / c.spacing + 1 else 0)).map
              (((begun c r source inRuntime).follow before).clock + · * c.spacing)) ∧
      (c.interval.toNat ≤ Cadence.horizon → c.spacing = c.interval.toNat) := by
  have hkeeps := keepsTime_begun hsource c r inRuntime
  have hexact : (Metronome.begun c inRuntime).Exact c := ⟨rfl, rfl⟩
  refine ⟨?_, ?_, ?_, Nat.min_eq_left⟩
  · intro os
    exact (hkeeps.follow os).alike ((keepsTime_begun hother c r inRuntime).follow os)
      (hexact.follow os)
  · intro os first second
    simp only [follow, List.foldl_append]
    exact (hkeeps.follow os).advance_add first second
  · intro before during hstarts hstop hjump
    have htimes := (hkeeps.follow before).tickTimes_of_starts (hexact.follow before) hstarts
      hstop hjump
    rw [← htimes, follow, List.foldl_append]
    rfl

end Timeline

namespace Source

/-- A source that never answers. -/
def silent : Source := fun _ _ => { delay := none }

/-- A source that fails, later each time than three ticks take and for another label. -/
def astray : Source := fun _ n =>
  { error := some "refused", delay := some (3500 + n), label := some "L2" }

end Source

namespace Timeline

/-- A definition that is registered while a run goes on, which then ticks twice. -/
def lateDefinition : List Occurrence :=
  [.advance 500, .command (.register "Req" "lastMinute/avg" "L1"), .advance 2000]

theorem ticks_unswayed_lateDefinition :
    Source.silent.Quiet ∧ Source.astray.Quiet ∧ (begun .everySecond {} .silent true).Starts ∧
      ((begun .everySecond {} .silent true).follow (.command .start :: lateDefinition)).tickTimes =
        [0, 1000, 2000] ∧
      ((begun .everySecond {} .astray true).follow (.command .start :: lateDefinition)).tickTimes =
        [0, 1000, 2000] := by
  have hsilent : Source.silent.Quiet := fun _ _ => rfl
  have hastray : Source.astray.Quiet := fun _ _ => rfl
  have hstarts : (begun .everySecond {} .silent true).Starts := rfl
  obtain ⟨halike, -, hgrid, -⟩ := ticks_unswayed .everySecond {} true hsilent hastray
  have htimes := hgrid [] lateDefinition hstarts (by simp [lateDefinition]) rfl
  have hastrayTimes := (halike (.command .start :: lateDefinition)).tickTimes.symm
  exact ⟨hsilent, hastray, hstarts, htimes, hastrayTimes.trans htimes⟩

end Timeline

end MetricWatch
