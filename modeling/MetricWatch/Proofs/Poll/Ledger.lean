import MetricWatch.Poll.Ledger

/-!
Look-ups in a ledger after each of its operations. An operation on one label leaves the series of
all others alone, and only registering and forgetting a label changes which registration is present.
-/

namespace MetricWatch

namespace Series

/-- The series after a tick, which begins a fetch or skips one. -/
def visited (s : Series) : Series :=
  if s.inFlight then { s with skipped := s.skipped + 1 } else { s with inFlight := true }

/-- The series after a sample. -/
def taking (threshold : UInt32) (x : Sample) (s : Series) : Series :=
  if x.isFailure then s.fail threshold else s.succeed x.timestamp

/-- What a sample changes in how the series stands. -/
def changeOn (threshold : UInt32) (x : Sample) (s : Series) : Change :=
  if x.isFailure then s.changeOnFailure threshold else s.changeOnSuccess

/-- The series after the fetch of a registration has ended. -/
def released (generation : Nat) (s : Series) : Series :=
  if s.generation = generation then { s with inFlight := false } else s

@[simp] theorem visited_generation (s : Series) : s.visited.generation = s.generation := by
  unfold visited
  split <;> rfl

@[simp] theorem visited_inFlight (s : Series) : s.visited.inFlight = true := by
  unfold visited
  split
  · assumption
  · rfl

@[simp] theorem taking_generation (threshold : UInt32) (x : Sample) (s : Series) :
    (s.taking threshold x).generation = s.generation := by
  unfold taking
  split <;> rfl

@[simp] theorem taking_inFlight (threshold : UInt32) (x : Sample) (s : Series) :
    (s.taking threshold x).inFlight = s.inFlight := by
  unfold taking
  split <;> rfl

@[simp] theorem released_generation (generation : Nat) (s : Series) :
    (s.released generation).generation = s.generation := by
  unfold released
  split <;> rfl

theorem released_of_ne {generation : Nat} {s : Series} (h : s.generation ≠ generation) :
    s.released generation = s := if_neg h

@[simp] theorem released_self_inFlight (s : Series) :
    (s.released s.generation).inFlight = false := by
  simp [released]

end Series

namespace Ledger

/-- The present registration of a label. -/
def generation? (l : Ledger) (label : String) : Option Nat :=
  (l.series? label).map (·.generation)

theorem isCurrent_iff {l : Ledger} {label : String} {generation : Nat} :
    l.isCurrent label generation = true ↔ l.generation? label = some generation := by
  unfold isCurrent generation?
  cases l.series? label <;> simp

theorem generation?_isSome (l : Ledger) (label : String) :
    (l.generation? label).isSome = (l.series? label).isSome := by
  simp [generation?]

section alter

variable (l : Ledger) (label other : String) (f : Series → Series)

theorem series?_alter :
    (l.alter label f).series? other =
      if label = other then (l.series? other).map f else l.series? other := by
  unfold alter
  split
  · rename_i s hs
    simp only [series?, LabelMap.get?_insert]
    split
    · rename_i h
      subst h
      rw [show l.series.get? label = some s from hs, Option.map_some]
    · rfl
  · rename_i hs
    split
    · rename_i h
      subst h
      rw [hs, Option.map_none]
    · rfl

theorem generation?_alter (hf : ∀ s, (f s).generation = s.generation) :
    (l.alter label f).generation? other = l.generation? other := by
  rw [generation?, series?_alter, generation?]
  split
  · cases l.series? other <;> simp [hf]
  · rfl

/-- Changing a series into itself changes nothing. -/
theorem alter_of_fixed {l : Ledger} {label : String} {f : Series → Series}
    (h : ∀ s ∈ l.series? label, f s = s) : l.alter label f = l := by
  unfold alter
  split
  · rename_i s hs
    have hinsert : l.series.insert label (f s) = l.series := by
      rw [h s hs]
      apply LabelMap.ext_get?
      intro other
      rw [LabelMap.get?_insert]
      split
      · rename_i hother
        exact hother ▸ hs.symm
      · rfl
    rw [hinsert]
  · rfl

@[simp] theorem generations_alter : (l.alter label f).generations = l.generations := by
  unfold alter
  split <;> rfl

@[simp] theorem ticks_alter : (l.alter label f).ticks = l.ticks := by
  unfold alter
  split <;> rfl

end alter

section operations

variable (l : Ledger) (label other : String)

theorem series?_track :
    (l.track label).2.series? other =
      if label = other then some { generation := l.generations + 1 } else l.series? other :=
  LabelMap.get?_insert _ _ _ _

theorem generation?_track :
    (l.track label).2.generation? other =
      if label = other then some (l.generations + 1) else l.generation? other := by
  rw [generation?, series?_track, generation?]
  split <;> rfl

@[simp] theorem generations_track : (l.track label).2.generations = l.generations + 1 := rfl

theorem series?_forget :
    (l.forget label).series? other = if label = other then none else l.series? other :=
  LabelMap.get?_erase _ _ _

theorem generation?_forget :
    (l.forget label).generation? other =
      if label = other then none else l.generation? other := by
  rw [generation?, series?_forget, generation?]
  split <;> rfl

@[simp] theorem series?_beginTick : l.beginTick.series? label = l.series? label := rfl

@[simp] theorem generation?_beginTick : l.beginTick.generation? label = l.generation? label := rfl

@[simp] theorem generations_beginTick : l.beginTick.generations = l.generations := rfl

theorem beginFetch_eq :
    l.beginFetch label =
      ((l.series? label).bind fun s => if s.inFlight then none else some s.generation,
        l.alter label Series.visited) := by
  unfold beginFetch
  split
  · rename_i s hs
    rw [hs, Option.bind_some]
    by_cases h : s.inFlight = true <;> simp [alter, hs, Series.visited, h]
  · rename_i hs
    simp [alter, hs]

theorem beginFetch_eq_some_iff {l : Ledger} {label : String} {generation : Nat} :
    (l.beginFetch label).1 = some generation ↔
      ∃ s, l.series? label = some s ∧ s.inFlight = false ∧ s.generation = generation := by
  rw [beginFetch_eq, Option.bind_eq_some_iff]
  simp

theorem isCurrent_of_beginFetch {l : Ledger} {label : String} {generation : Nat}
    (h : (l.beginFetch label).1 = some generation) : l.isCurrent label generation = true := by
  obtain ⟨s, hs, -, rfl⟩ := beginFetch_eq_some_iff.1 h
  rw [isCurrent_iff, generation?, hs, Option.map_some]

theorem series?_finishFetch (generation : Nat) :
    (l.finishFetch label generation).series? other =
      if label = other then (l.series? other).map (Series.released generation)
      else l.series? other :=
  series?_alter l label other _

@[simp] theorem generation?_finishFetch (generation : Nat) :
    (l.finishFetch label generation).generation? other = l.generation? other :=
  generation?_alter l label other _ (Series.released_generation generation)

@[simp] theorem generations_finishFetch (generation : Nat) :
    (l.finishFetch label generation).generations = l.generations :=
  generations_alter l label _

/-- The end of a fetch whose registration is not the present one changes nothing. -/
theorem finishFetch_of_not_current {l : Ledger} {label : String} {generation : Nat}
    (h : l.isCurrent label generation = false) : l.finishFetch label generation = l := by
  apply alter_of_fixed
  intro s hs
  apply Series.released_of_ne
  rintro rfl
  rw [isCurrent, hs] at h
  simp at h

end operations

section record

variable (l : Ledger) (threshold : UInt32) (x : Sample)

theorem record_eq :
    l.record threshold x =
      (((l.series? x.label).map (Series.changeOn threshold x)).getD .none,
        l.alter x.label (Series.taking threshold x)) := by
  unfold record recordFailure recordSuccess Series.changeOn Series.taking
  split <;> rfl

theorem series?_record (label : String) :
    (l.record threshold x).2.series? label =
      if x.label = label then (l.series? label).map (Series.taking threshold x)
      else l.series? label := by
  rw [record_eq, series?_alter]

@[simp] theorem generation?_record (label : String) :
    (l.record threshold x).2.generation? label = l.generation? label := by
  rw [record_eq, generation?_alter _ _ _ _ (Series.taking_generation threshold x)]

@[simp] theorem generations_record :
    (l.record threshold x).2.generations = l.generations := by
  rw [record_eq, generations_alter]

end record

end Ledger

end MetricWatch
