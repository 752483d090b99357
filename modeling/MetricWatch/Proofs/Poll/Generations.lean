import MetricWatch.Proofs.History
import MetricWatch.Proofs.Poll.Calls

/-!
Generations over any sequence of calls to a ledger. A registration is given the next number, which its
label has until it is registered anew or forgotten; at any other time no label has it. So what is reported
under an old number is told from what belongs to the present registration, and a label is in flight just
while a fetch that was begun under its present number has not ended.
-/

namespace MetricWatch

namespace Ledger

/-- Whether a call registers a label, whichever it is. -/
def Call.registers : Call → Bool
  | .track _ => true
  | _ => false

/-- How many registrations there are among some calls. -/
def registrations (calls : List Call) : Nat := calls.countP Call.registers

/-- Whether a fetch was begun under a generation of a label and has not been reported as ended. -/
def Outstanding (calls : List Call) (label : String) (generation : Nat) : Prop :=
  ∃ before since, calls = before ++ .beginFetch label :: since ∧
    ((run {} before).beginFetch label).1 = some generation ∧ .finishFetch label generation ∉ since

theorem generations_call (l : Ledger) (c : Call) :
    (l.call c).2.generations = l.generations + c.registers.toNat := by
  cases c with
  | track _ | forget _ | beginTick => rfl
  | beginFetch label =>
      rw [call, beginFetch_eq]
      exact generations_alter l label _
  | finishFetch label _ | recordSuccess label _ | recordFailure label _ =>
      exact generations_alter l label _

/-- Only registering a label or forgetting it changes which number it has. -/
theorem generation?_call (l : Ledger) (c : Call) (label : String) :
    (l.call c).2.generation? label =
      if c.tracks label then some (l.generations + 1)
      else if c.forgets label then none
      else l.generation? label := by
  cases c with
  | track other =>
      rw [call, generation?_track]
      simp
  | forget other =>
      rw [call, generation?_forget]
      simp
  | beginTick => rfl
  | beginFetch other =>
      rw [call, beginFetch_eq]
      exact generation?_alter l other label _ Series.visited_generation
  | finishFetch other generation => exact generation?_finishFetch l other label generation
  | recordSuccess other _ | recordFailure other _ =>
      exact generation?_alter l other label _ fun _ => rfl

theorem isCurrent_call {l : Ledger} {c : Call} {label : String} {generation : Nat} :
    (l.call c).2.isCurrent label generation = true ↔
      c = .track label ∧ generation = l.generations + 1 ∨
        l.isCurrent label generation = true ∧ c ≠ .track label ∧ c ≠ .forget label := by
  rw [isCurrent_iff, isCurrent_iff, generation?_call, ← Call.tracks_iff, ne_eq, ← Call.tracks_iff,
    ne_eq, ← Call.forgets_iff]
  cases htracks : c.tracks label with
  | true => simpa using eq_comm
  | false => cases hforgets : c.forgets label <;> simp

theorem registrations_concat (calls : List Call) (c : Call) :
    registrations (calls ++ [c]) = registrations calls + c.registers.toNat := by
  rw [registrations, List.countP_append, registrations]
  cases h : c.registers <;> simp [h]

theorem generations_run (calls : List Call) : (run {} calls).generations = registrations calls := by
  induction calls using List.reverseRecOn with
  | nil => rfl
  | append_singleton calls c ih =>
      rw [run_concat, generations_call, ih, registrations_concat]

theorem registrations_mono {before calls : List Call} (h : before <+: calls) :
    registrations before ≤ registrations calls := h.sublist.countP_le

theorem registrations_lt (before : List Call) (label : String) (since : List Call) :
    registrations before < registrations (before ++ .track label :: since) := by
  rw [registrations, registrations, List.countP_append, List.countP_cons_of_pos rfl]
  omega

section Run

variable {calls before since : List Call} {label other : String} {generation : Nat}

theorem exists_track_of_isCurrent (h : (run {} calls).isCurrent label generation = true) :
    ∃ before since, calls = before ++ .track label :: since ∧
      generation = registrations before + 1 := by
  induction calls using List.reverseRecOn with
  | nil => cases h
  | append_singleton calls c ih =>
      rw [run_concat, isCurrent_call, generations_run] at h
      rcases h with ⟨rfl, hgeneration⟩ | ⟨h, -⟩
      · exact ⟨calls, [], rfl, hgeneration⟩
      · obtain ⟨before, since, rfl, hgeneration⟩ := ih h
        exact ⟨before, since ++ [c], History.cut_append _ _ _ _, hgeneration⟩

theorem le_registrations_of_isCurrent (h : (run {} calls).isCurrent label generation = true) :
    generation ≤ registrations calls := by
  obtain ⟨before, since, rfl, rfl⟩ := exists_track_of_isCurrent h
  exact registrations_lt before label since

/-- Who has a number once it has been given out: its own label, until that is registered anew or
forgotten, and nobody else. -/
theorem isCurrent_run_track_iff :
    (run {} (before ++ .track label :: since)).isCurrent other (registrations before + 1) = true ↔
      other = label ∧ .track label ∉ since ∧ .forget label ∉ since := by
  induction since using List.reverseRecOn with
  | nil =>
      rw [run_concat, isCurrent_call, generations_run]
      constructor
      · rintro (⟨hlabel, -⟩ | ⟨h, -⟩)
        · exact ⟨(Call.track.inj hlabel).symm, List.not_mem_nil, List.not_mem_nil⟩
        · -- A number that had been given out before would be smaller.
          exact absurd (le_registrations_of_isCurrent h) (Nat.not_succ_le_self _)
      · rintro ⟨rfl, -⟩
        exact .inl ⟨rfl, rfl⟩
  | append_singleton since c ih =>
      have hgreater := registrations_lt before label since
      rw [← History.cut_append, run_concat, isCurrent_call, generations_run, ih]
      simp only [List.mem_append, List.mem_singleton, not_or]
      constructor
      · rintro (⟨-, hgeneration⟩ | ⟨⟨rfl, htrack, hforget⟩, htracks, hforgets⟩)
        · omega
        · exact ⟨rfl, ⟨htrack, htracks.symm⟩, hforget, hforgets.symm⟩
      · rintro ⟨rfl, ⟨htrack, htracks⟩, hforget, hforgets⟩
        exact .inr ⟨⟨rfl, htrack, hforget⟩, Ne.symm htracks, Ne.symm hforgets⟩

theorem eq_of_isCurrent (h : (run {} calls).isCurrent label generation = true)
    (h' : (run {} calls).isCurrent other generation = true) : label = other := by
  obtain ⟨before, since, rfl, rfl⟩ := exists_track_of_isCurrent h
  exact (isCurrent_run_track_iff.1 h').1.symm

theorem known_iff_exists_isCurrent :
    Known calls label ↔ ∃ generation, (run {} calls).isCurrent label generation = true := by
  rw [← isSome_series?_run, ← generation?_isSome, Option.isSome_iff_exists]
  simp only [isCurrent_iff]

theorem outstanding_concat {c : Call} :
    Outstanding (calls ++ [c]) label generation ↔
      c = .beginFetch label ∧ ((run {} calls).beginFetch label).1 = some generation ∨
        Outstanding calls label generation ∧ c ≠ .finishFetch label generation := by
  constructor
  · rintro ⟨before, since, hcut, hbegun, hended⟩
    rcases History.cut_concat_cases hcut with ⟨rfl, hc, -⟩ | ⟨since, rfl, rfl⟩
    · exact .inl ⟨hc, hbegun⟩
    · rw [List.mem_append, List.mem_singleton, not_or] at hended
      exact .inr ⟨⟨before, since, rfl, hbegun, hended.1⟩, Ne.symm hended.2⟩
  · rintro (⟨rfl, hbegun⟩ | ⟨⟨before, since, rfl, hbegun, hended⟩, hc⟩)
    · exact ⟨calls, [], rfl, hbegun, List.not_mem_nil⟩
    · refine ⟨before, since ++ [c], History.cut_append _ _ _ _, hbegun, ?_⟩
      rw [List.mem_append, List.mem_singleton, not_or]
      exact ⟨hended, Ne.symm hc⟩

/-- No fetch is outstanding under a number that is yet to be given out. -/
theorem Outstanding.le_registrations (h : Outstanding calls label generation) :
    generation ≤ registrations calls := by
  obtain ⟨before, since, rfl, hbegun, -⟩ := h
  have hle := le_registrations_of_isCurrent (isCurrent_of_beginFetch hbegun)
  exact Nat.le_trans hle (registrations_mono (List.prefix_append _ _))

/-- A call does to its label's mark what it does to the fetches that are outstanding. -/
theorem inFlight_effect {c : Call} (hlabel : c.label? = some label)
    (h : ∀ s ∈ (run {} calls).series? label,
      s.inFlight = true ↔ Outstanding calls label s.generation) :
    ∀ s ∈ c.effect (run {} calls).generations ((run {} calls).series? label),
      s.inFlight = true ↔ Outstanding (calls ++ [c]) label s.generation := by
  intro s hs
  rw [outstanding_concat]
  cases c with
  | beginTick => cases hlabel
  | track other =>
      obtain rfl := Option.some.inj hs
      -- The number is new, so that nothing can have been begun under it.
      refine iff_of_false Bool.false_ne_true ?_
      rintro (⟨hc, -⟩ | ⟨houtstanding, -⟩)
      · cases hc
      · have hle := houtstanding.le_registrations
        rw [← generations_run] at hle
        exact Nat.not_succ_le_self _ hle
  | forget other => cases hs
  | beginFetch other =>
      obtain rfl := Option.some.inj hlabel
      obtain ⟨u, hu, rfl⟩ := Option.map_eq_some_iff.1 hs
      rw [Series.visited_generation]
      refine iff_of_true (Series.visited_inFlight u) ?_
      cases hflight : u.inFlight with
      | false => exact .inl ⟨rfl, beginFetch_eq_some_iff.2 ⟨u, hu, hflight, rfl⟩⟩
      | true => exact .inr ⟨(h u hu).1 hflight, nofun⟩
  | finishFetch other generation =>
      obtain rfl := Option.some.inj hlabel
      obtain ⟨u, hu, rfl⟩ := Option.map_eq_some_iff.1 hs
      rw [Series.released_generation]
      by_cases hgeneration : u.generation = generation
      · subst hgeneration
        simp
      · -- The fetch that ended was begun under another number.
        rw [Series.released_of_ne hgeneration, h u hu]
        simp [Ne.symm hgeneration]
  | recordSuccess other timestamp | recordFailure other threshold =>
      obtain ⟨u, hu, rfl⟩ := Option.map_eq_some_iff.1 hs
      simpa [Series.succeed, Series.fail] using h u hu

/-- A label is marked while a fetch of its present registration is outstanding. -/
theorem inFlight_iff_outstanding :
    ∀ s ∈ (run {} calls).series? label,
      s.inFlight = true ↔ Outstanding calls label s.generation := by
  refine forall_series_run
    (P := fun calls s => s.inFlight = true ↔ Outstanding calls label s.generation) ?_ ?_ calls
  · intro calls c hlabel ih
    exact inFlight_effect hlabel ih
  · intro calls c hlabel s ih
    rw [ih, outstanding_concat]
    constructor
    · intro h
      refine .inr ⟨h, ?_⟩
      rintro rfl
      exact hlabel rfl
    · rintro (⟨rfl, -⟩ | ⟨h, -⟩)
      · exact absurd rfl hlabel
      · exact h

/-- A fetch is begun under the present number, unless one is outstanding under it. -/
theorem beginFetch_run_eq_some_iff :
    ((run {} calls).beginFetch label).1 = some generation ↔
      (run {} calls).isCurrent label generation = true ∧ ¬ Outstanding calls label generation := by
  rw [beginFetch_eq_some_iff, isCurrent_iff, generation?, Option.map_eq_some_iff]
  constructor
  · rintro ⟨s, hs, hflight, rfl⟩
    refine ⟨⟨s, hs, rfl⟩, ?_⟩
    rw [← inFlight_iff_outstanding s hs, hflight]
    exact Bool.false_ne_true
  · rintro ⟨⟨s, hs, rfl⟩, houtstanding⟩
    rw [← inFlight_iff_outstanding s hs, Bool.not_eq_true] at houtstanding
    exact ⟨s, hs, houtstanding, rfl⟩

end Run

/-- What becomes of the number that a label is registered under after some calls. -/
structure GivenOut (calls : List Call) (label : String) (generation : Nat) : Prop where
  answer : ((run {} calls).call (.track label)).1 = .number generation
  unused : ∀ earlier, earlier <+: calls → ∀ other,
    (run {} earlier).isCurrent other generation = false
  current_iff : ∀ since,
    (run {} (calls ++ .track label :: since)).isCurrent label generation = true ↔
      .track label ∉ since ∧ .forget label ∉ since
  foreign : ∀ other, other ≠ label → ∀ since,
    (run {} (calls ++ .track label :: since)).isCurrent other generation = false

theorem givenOut (calls : List Call) (label : String) :
    GivenOut calls label (registrations calls + 1) where
  answer := by
    rw [← generations_run]
    rfl
  unused earlier hearlier other := by
    rw [Bool.eq_false_iff]
    intro h
    have hle := Nat.le_trans (le_registrations_of_isCurrent h) (registrations_mono hearlier)
    exact Nat.not_succ_le_self _ hle
  current_iff since := by
    rw [isCurrent_run_track_iff]
    exact and_iff_right rfl
  foreign other hother since := by
    rw [Bool.eq_false_iff]
    exact fun h => hother (isCurrent_run_track_iff.1 h).1

/-- What the generations are after some calls, and what they are good for. -/
structure Distinguishes (calls : List Call) : Prop where
  distinct : ∀ label other generation, (run {} calls).isCurrent label generation = true →
    (run {} calls).isCurrent other generation = true → label = other
  bounded : ∀ label generation, (run {} calls).isCurrent label generation = true →
    generation ≤ registrations calls
  givenOut : ∀ label, ∃ generation, GivenOut calls label generation
  stale : ∀ label generation, (run {} calls).isCurrent label generation = false →
    ((run {} calls).call (.finishFetch label generation)).2 = run {} calls
  begins_iff : ∀ label, ((run {} calls).beginFetch label).1.isSome = true ↔
    Known calls label ∧ ∀ generation, (run {} calls).isCurrent label generation = true →
      ¬ Outstanding calls label generation

/-- Whatever calls are made, a generation belongs to one registration only, and to it alone until the
label is registered anew or forgotten. -/
theorem generations_distinguish (calls : List Call) : Distinguishes calls where
  distinct _ _ _ := eq_of_isCurrent
  bounded _ _ := le_registrations_of_isCurrent
  givenOut label := ⟨_, givenOut calls label⟩
  stale _ _ := finishFetch_of_not_current
  begins_iff label := by
    rw [Option.isSome_iff_exists, known_iff_exists_isCurrent]
    constructor
    · rintro ⟨generation, hbegun⟩
      obtain ⟨hcurrent, houtstanding⟩ := beginFetch_run_eq_some_iff.1 hbegun
      refine ⟨⟨generation, hcurrent⟩, fun generation' hcurrent' => ?_⟩
      rw [isCurrent_iff] at hcurrent hcurrent'
      rwa [← Option.some.inj (hcurrent.symm.trans hcurrent')]
    · rintro ⟨⟨generation, hcurrent⟩, houtstanding⟩
      exact ⟨generation, beginFetch_run_eq_some_iff.2 ⟨hcurrent, houtstanding _ hcurrent⟩⟩

/-- The end of an earlier registration's fetch leaves the present one's outstanding. -/
example : (run {} [.track "L1", .beginFetch "L1", .forget "L1", .track "L1", .beginFetch "L1",
    .finishFetch "L1" 1]).series? "L1" = some { generation := 2, inFlight := true } := by decide

end Ledger

end MetricWatch
