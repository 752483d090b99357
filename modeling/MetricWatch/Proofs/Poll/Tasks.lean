import MetricWatch.Proofs.Poll.Table

/-!
The tasks of a service. Their numbers ascend in the order of their issue and are not used again, so a
task is known by its number.
-/

namespace MetricWatch

/-- Whether a fetch was issued for a registration of a label. -/
def Fetch.isFor (label : String) (generation : Nat) (f : Fetch) : Bool :=
  f.definition.label = label && f.generation = generation

namespace Service

theorem tasksFrom_fetches (first : Nat) (fetches : List Fetch) :
    (tasksFrom first fetches).map (·.fetch) = fetches := by
  induction fetches generalizing first with
  | nil => rfl
  | cons f fetches ih => rw [tasksFrom, List.map_cons, ih]

theorem tasksFrom_numbers (first : Nat) (fetches : List Fetch) :
    (tasksFrom first fetches).map (·.number) = List.range' first fetches.length := by
  induction fetches generalizing first with
  | nil => rfl
  | cons f fetches ih => rw [tasksFrom, List.map_cons, ih, List.length_cons, List.range'_succ]

theorem countP_tasksFrom (first : Nat) (fetches : List Fetch) (p : Fetch → Bool) :
    (tasksFrom first fetches).countP (fun t => p t.fetch) = fetches.countP p := by
  conv_rhs => rw [← tasksFrom_fetches first fetches, List.countP_map]
  rfl

theorem of_mem_tasksFrom {first : Nat} {fetches : List Fetch} {t : Task}
    (h : t ∈ tasksFrom first fetches) :
    t.fetch ∈ fetches ∧ t.asked = false ∧ first ≤ t.number ∧
      t.number < first + fetches.length := by
  induction fetches generalizing first with
  | nil => cases h
  | cons f fetches ih =>
      rcases List.mem_cons.1 h with rfl | h
      · simp
      · obtain ⟨hfetch, hasked, hfirst, hlast⟩ := ih h
        refine ⟨List.mem_cons_of_mem _ hfetch, hasked, by omega, ?_⟩
        rw [List.length_cons]
        omega

/-- The numbers of the tasks ascend and were all given out before. -/
structure Numbered (s : Service) : Prop where
  ascending : s.tasks.Pairwise (·.number < ·.number)
  below : ∀ t ∈ s.tasks, t.number < s.issued

theorem Numbered.of_eq {s s' : Service} (h : s.Numbered) (htasks : s'.tasks = s.tasks)
    (hissued : s'.issued = s.issued) : s'.Numbered :=
  ⟨htasks ▸ h.ascending, htasks ▸ hissued ▸ h.below⟩

theorem Numbered.eq_of_number {s : Service} (h : s.Numbered) {t u : Task} (ht : t ∈ s.tasks)
    (hu : u ∈ s.tasks) (hnumber : t.number = u.number) : t = u := by
  have hnodup : (s.tasks.map (·.number)).Nodup :=
    List.pairwise_map.2 (h.ascending.imp Nat.ne_of_lt)
  exact List.inj_on_of_nodup_map hnodup ht hu hnumber

theorem Numbered.task?_of_mem {s : Service} (h : s.Numbered) {t : Task} (ht : t ∈ s.tasks) :
    s.task? t.number t.asked = some t := by
  cases hfind : s.task? t.number t.asked with
  | none =>
      rw [task?, List.find?_eq_none] at hfind
      simpa using hfind t ht
  | some u =>
      obtain ⟨hu, hnumber, -⟩ := mem_of_task? hfind
      rw [h.eq_of_number hu ht hnumber]

theorem Numbered.filter_number {s : Service} (h : s.Numbered) {t : Task} (ht : t ∈ s.tasks) :
    s.tasks.filter (·.number = t.number) = [t] := by
  obtain ⟨before, after, hsplit⟩ := List.append_of_mem ht
  have hasc := h.ascending
  rw [hsplit, List.pairwise_append, List.pairwise_cons] at hasc
  obtain ⟨-, ⟨hafter, -⟩, hbefore⟩ := hasc
  have hnone : before.filter (·.number = t.number) = [] := by
    apply List.filter_eq_nil_iff.2
    intro u hu
    simpa using Nat.ne_of_lt (hbefore u hu t List.mem_cons_self)
  have hnone' : after.filter (·.number = t.number) = [] := by
    apply List.filter_eq_nil_iff.2
    intro u hu
    simpa using Nat.ne_of_gt (hafter u hu)
  rw [hsplit, List.filter_append, hnone, List.filter_cons_of_pos (by simp), hnone',
    List.nil_append]

theorem Numbered.countP_endTask {s : Service} (h : s.Numbered) {t : Task} (ht : t ∈ s.tasks)
    (p : Task → Bool) :
    s.tasks.countP p = (s.endTask t).tasks.countP p + (p t).toNat := by
  rw [List.countP_eq_countP_filter_add s.tasks p (·.number ≠ t.number)]
  congr 1
  simp only [decide_not, Bool.not_not, h.filter_number ht]
  cases hp : p t <;> simp [hp]

theorem Numbered.endTask {s : Service} (h : s.Numbered) (t : Task) : (s.endTask t).Numbered where
  ascending := h.ascending.filter _
  below u hu := h.below u (List.mem_filter.1 hu).1

theorem Numbered.markAsked {s : Service} (h : s.Numbered) (t : Task) :
    (s.markAsked t).Numbered where
  ascending := by
    refine List.pairwise_map.2 (h.ascending.imp fun hlt => ?_)
    split <;> split <;> exact hlt
  below u hu := by
    obtain ⟨v, hv, rfl⟩ := List.mem_map.1 hu
    split <;> exact h.below v hv

theorem numbered_fresh (c : Cadence) (r : Registry) : (fresh c r).Numbered where
  ascending := List.Pairwise.nil
  below := nofun

theorem Step.numbered {s s' : Service} {a : Action} {e : Effect} (h : Step s a s' e)
    (hs : s.Numbered) : s'.Numbered := by
  cases h with
  | tick epoch current issue =>
      constructor
      · refine List.pairwise_append.2 ⟨hs.ascending, ?_, ?_⟩
        · rw [← List.pairwise_map (f := Task.number) (R := (· < ·)), tasksFrom_numbers]
          exact List.pairwise_lt_range'
        · intro t ht u hu
          exact Nat.lt_of_lt_of_le (hs.below t ht) (of_mem_tasksFrom hu).2.2.1
      · intro t ht
        rcases List.mem_append.1 ht with ht | ht
        · exact Nat.lt_add_right _ (hs.below t ht)
        · exact (of_mem_tasksFrom ht).2.2.2
  | ask t => exact hs.markAsked t
  | close t => exact hs.endTask t
  | deliver t x => exact (hs.endTask t).of_eq rfl rfl
  | _ => exact hs.of_eq rfl rfl

/-- Where a task comes from: it was there, a tick has just issued it, or it has just asked. -/
theorem Step.mem_tasks {s s' : Service} {a : Action} {e : Effect} (h : Step s a s' e)
    (hs : s.Numbered) {t : Task} (ht : t ∈ s'.tasks) :
    t ∈ s.tasks ∨ (t ∈ e.issued ∧ t.asked = false ∧ a = .tick t.fetch.epoch) ∨
      ∃ u ∈ s.tasks, u.asked = false ∧ a = .ask u.number ∧ e.asked = some u.fetch ∧
        t = { u with asked := true } := by
  cases h with
  | tick epoch current issue =>
      rcases List.mem_append.1 ht with ht | ht
      · exact .inl ht
      · obtain ⟨hfetch, hasked, -⟩ := of_mem_tasksFrom ht
        obtain rfl := congrArg Prod.fst issue
        obtain ⟨hepoch, -⟩ := Poller.of_mem_issue hfetch
        exact .inr (.inl ⟨ht, hasked, by rw [hepoch]⟩)
  | ask u mem unasked current =>
      obtain ⟨v, hv, rfl⟩ := List.mem_map.1 ht
      by_cases hnumber : v.number = u.number
      · obtain rfl := hs.eq_of_number hv mem hnumber
        exact .inr (.inr ⟨v, hv, unasked, rfl, rfl, if_pos rfl⟩)
      · rw [if_neg hnumber]
        exact .inl hv
  | close t => exact .inl (List.mem_filter.1 ht).1
  | deliver t x => exact .inl (List.mem_filter.1 ht).1
  | _ => exact .inl ht

/-- Whether a task is no longer among those that have not ended. -/
def Ended (s : Service) (t : Task) : Prop := t.number ∉ s.tasks.map (·.number)

theorem not_ended_of_mem {s : Service} {t u : Task} (hu : u ∈ s.tasks)
    (hnumber : u.number = t.number) : ¬ s.Ended t :=
  fun h => h (List.mem_map.2 ⟨u, hu, hnumber⟩)

theorem eq_of_ended_endTask {s : Service} (hs : s.Numbered) {t u : Task} (ht : t ∈ s.tasks)
    (hu : u ∈ s.tasks) (h : (s.endTask u).Ended t) : u = t := by
  by_cases hnumber : t.number = u.number
  · exact hs.eq_of_number hu ht hnumber.symm
  · exact absurd h (not_ended_of_mem (List.mem_filter.2 ⟨ht, by simpa using hnumber⟩) rfl)

/-- How a task comes to its end: an action does nothing else, or takes in the task's sample first. -/
theorem Step.of_ended {s s' : Service} {a : Action} {e : Effect} (h : Step s a s' e)
    (hs : s.Numbered) {t : Task} (ht : t ∈ s.tasks) (hended : s'.Ended t) :
    s' = s.endTask t ∨
      ∃ x, s.Passes t x ∧ s' = Service.endTask { s with poller := s.poller.taking x } t := by
  cases h with
  | tick => exact absurd hended (not_ended_of_mem (List.mem_append_left _ ht) rfl)
  | ask u =>
      refine absurd hended (not_ended_of_mem (List.mem_map_of_mem ht) ?_)
      split <;> rfl
  | close u mem =>
      obtain rfl := eq_of_ended_endTask hs ht mem hended
      exact .inl rfl
  | deliver u x mem asked passes =>
      obtain rfl := eq_of_ended_endTask hs ht mem hended
      exact .inr ⟨x, passes, rfl⟩
  | _ => exact absurd hended (not_ended_of_mem ht rfl)

theorem ended_endTask (s : Service) {t u : Task} (hnumber : u.number = t.number) :
    (s.endTask u).Ended t := by
  intro hmem
  obtain ⟨v, hv, hsame⟩ := List.mem_map.1 hmem
  have hne := (List.mem_filter.1 hv).2
  simp [hsame, hnumber] at hne

theorem asked_eq_of_task?_eq_none {s : Service} {number : Nat} {asked : Bool}
    (h : s.task? number asked = none) {u : Task} (hu : u ∈ s.tasks) (hnumber : u.number = number) :
    u.asked = !asked := by
  have hne := List.find?_eq_none.1 h u hu
  rw [hnumber] at hne
  cases hasked : u.asked <;> cases asked <;> simp_all

theorem asked_of_mem_step_ask {s : Service} {t u : Task}
    (hu : u ∈ (s.step (.ask t.number)).1.tasks) (hnumber : u.number = t.number) :
    u.asked = true := by
  have h := s.step_spec (.ask t.number)
  generalize (s.step (.ask t.number)).1 = s', (s.step (.ask t.number)).2 = e at h hu
  generalize hask : Action.ask t.number = a at h
  cases h with
  | inert answer h =>
      subst hask
      exact asked_eq_of_task?_eq_none h hu hnumber
  | ask v =>
      obtain ⟨w, -, rfl⟩ := List.mem_map.1 hu
      by_cases hw : w.number = v.number
      · rw [if_pos hw]
      · rw [if_neg hw] at hnumber
        exact absurd (hnumber.trans (Action.ask.inj hask)) hw
  | close v mem closes =>
      subst hask
      exact absurd hnumber (fun h => ended_endTask s closes.1.symm (List.mem_map.2 ⟨u, hu, h⟩))
  | _ => cases hask

/-- Whether an action lets a task have its answer, or break off without one. -/
def Action.Settles (number : Nat) : Action → Prop
  | .reply n _ => n = number
  | .abandon n => n = number
  | _ => False

theorem ended_of_settles {s : Service} {t : Task} {a : Action}
    (hasked : ∀ u ∈ s.tasks, u.number = t.number → u.asked = true) (ha : a.Settles t.number) :
    (s.step a).1.Ended t := by
  have h := s.step_spec a
  generalize (s.step a).1 = s', (s.step a).2 = e at h ⊢
  cases h with
  | inert answer h =>
      intro hmem
      obtain ⟨u, hu, hnumber⟩ := List.mem_map.1 hmem
      have hfind : s.task? t.number true = none := by
        cases a with
        | reply number x => exact ha ▸ h
        | abandon number => exact ha ▸ h
        | _ => exact ha.elim
      have hunasked := asked_eq_of_task?_eq_none hfind hu hnumber
      rw [hasked u hu hnumber] at hunasked
      cases hunasked
  | close u mem closes =>
      apply ended_endTask s
      cases a with
      | reply number x => exact closes.1.symm.trans ha
      | abandon number => exact closes.1.symm.trans ha
      | _ => exact ha.elim
  | deliver u x => exact ended_endTask _ ha
  | _ => exact ha.elim

theorem ended_run_ask (s : Service) (t : Task) {a : Action} (ha : a.Settles t.number) :
    (s.run [.ask t.number, a]).Ended t :=
  ended_of_settles (fun _ hu hnumber => asked_of_mem_step_ask hu hnumber) ha

end Service

end MetricWatch
