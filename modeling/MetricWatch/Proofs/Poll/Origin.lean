import Mathlib.Data.List.Induction
import MetricWatch.Proofs.History
import MetricWatch.Proofs.Poll.Ended
import MetricWatch.Proofs.Poll.SingleFlight

/-!
Where events come from. Every task of a run goes back to a tick that issued it and, before that, to the
registration of its definition; a sample is taken in only while both still hold.
-/

namespace MetricWatch

/-- The label that an event is about, if it is about one. -/
def Event.label? : Event → Option String
  | .snapshot _ => none
  | .sample x => some x.label
  | .degraded w => some w.label
  | .recovered label => some label

def Event.isSample : Event → Bool
  | .sample _ => true
  | _ => false

theorem Change.label?_of_mem_event? {change : Change} {x : Sample} {e : Event}
    (h : e ∈ (change.event? x).toList) : e.label? = some x.label ∧ e.isSample = false := by
  cases change <;> simp_all [Change.event?, Event.label?, Event.isSample]

namespace Poller

theorem label?_of_mem_news {p : Poller} {x : Sample} {e : Event} (h : e ∈ p.news x) :
    e.label? = some x.label := by
  rcases List.mem_append.1 h with h | h
  · split at h
    · rw [List.mem_singleton.1 h, Event.label?]
    · cases h
  · exact (Change.label?_of_mem_event? h).1

theorem eq_of_sample_mem_news {p : Poller} {x y : Sample} (h : .sample y ∈ p.news x) : y = x := by
  rcases List.mem_append.1 h with h | h
  · split at h
    · exact Event.sample.inj (List.mem_singleton.1 h)
    · cases h
  · exact absurd (Change.label?_of_mem_event? h).2 nofun

theorem countP_isSample_news (p : Poller) (x : Sample) :
    (p.news x).countP Event.isSample ≤ 1 := by
  have hchange : ((p.ledger.record p.cadence.threshold x).1.event? x).toList.countP
      Event.isSample = 0 := by
    apply List.countP_eq_zero.2
    intro e he
    rw [(Change.label?_of_mem_event? he).2]
    exact Bool.false_ne_true
  rw [news, List.countP_append, hchange]
  split
  · exact Nat.le_refl 1
  · exact Nat.zero_le 1

end Poller

namespace Service

variable {s₀ : Service}

/-- Whether a run registered a definition under a generation, in its beginning `before`. -/
structure RegisteredAt (s₀ : Service) (before : List Action) (d : Definition) (generation : Nat) :
    Prop where
  accepted : ((s₀.run before).step (.register d)).2.answer = .outcome (.ok ())
  generation_eq :
    generation = ((s₀.run before).step (.register d)).1.poller.ledger.generations
  current : ((s₀.run before).step (.register d)).1.poller.ledger.generation? d.label =
    some generation

theorem new_of_accepted {s : Service} {d : Definition}
    (h : (s.step (.register d)).2.answer = .outcome (.ok ())) :
    d.label ∉ s.poller.definitions.map (·.label) := by
  intro hmem
  change (s.register d).2.answer = .outcome (.ok ()) at h
  rw [register, Poller.register, if_pos (Poller.registered_iff.2 hmem)] at h
  cases h

theorem step_register_of_new {s : Service} {d : Definition}
    (new : d.label ∉ s.poller.definitions.map (·.label)) :
    s.step (.register d) =
      ({ s with poller := { s.poller with
          definitions := s.poller.definitions ++ [d]
          ledger := (s.poller.ledger.track d.label).2 } },
        { answer := .outcome (.ok ()) }) := by
  change s.register d = _
  rw [register, Poller.register, Poller.registered_eq_false_iff.2 new]
  rfl

theorem registeredAt_of_new {before : List Action} {d : Definition}
    (new : d.label ∉ (s₀.run before).poller.definitions.map (·.label)) :
    RegisteredAt s₀ before d ((s₀.run before).poller.ledger.generations + 1) := by
  have hstep := step_register_of_new new
  constructor
  · rw [hstep]
  · rw [hstep]
    exact (Ledger.generations_track _ _).symm
  · rw [hstep]
    exact (Ledger.generation?_track _ _ _).trans (if_pos rfl)

/-- Every definition of a run goes back to its registration, under the generation that it has. -/
theorem exists_registeredAt (c : Cadence) (r : Registry) (as : List Action) {d : Definition}
    {generation : Nat} (hd : d ∈ ((fresh c r).run as).poller.definitions)
    (hgen : ((fresh c r).run as).poller.ledger.generation? d.label = some generation) :
    ∃ before since, as = before ++ .register d :: since ∧
      RegisteredAt (fresh c r) before d generation := by
  induction as using List.reverseRecOn with
  | nil => cases hd
  | append_singleton as a ih =>
      have extend (hd : d ∈ ((fresh c r).run as).poller.definitions)
          (hgen : ((fresh c r).run as).poller.ledger.generation? d.label = some generation) :
          ∃ before since, as ++ [a] = before ++ .register d :: since ∧
            RegisteredAt (fresh c r) before d generation := by
        obtain ⟨before, since, rfl, hregistered⟩ := ih hd hgen
        exact ⟨before, since ++ [a], History.cut_append _ _ _ _, hregistered⟩
      rw [run_concat] at hd hgen
      have htable := (((fresh c r).run as).step_spec a).table
      generalize (((fresh c r).run as).step a).1.poller = q at htable hd hgen
      cases htable with
      | register e new =>
          rw [Ledger.generation?_track] at hgen
          rcases List.mem_append.1 hd with hd | hd
          · have hne : e.label ≠ d.label := fun h => new (h ▸ List.mem_map_of_mem hd)
            rw [if_neg hne] at hgen
            exact extend hd hgen
          · obtain rfl := List.mem_singleton.1 hd
            rw [if_pos rfl] at hgen
            obtain rfl := Option.some.inj hgen
            exact ⟨as, [], rfl, registeredAt_of_new new⟩
      | unregister e =>
          rw [Ledger.generation?_forget] at hgen
          split at hgen
          · cases hgen
          · exact extend (List.mem_of_mem_eraseP hd) hgen
      | same hsame =>
          rw [hsame.definitions] at hd
          rw [hsame.generation?] at hgen
          exact extend hd hgen

/-- A registration that is still the present one of its label was not taken off since. -/
theorem RegisteredAt.kept {c : Cadence} {r : Registry} {before since : List Action} {d : Definition}
    {generation : Nat} (h : RegisteredAt (fresh c r) before d generation)
    (hgen : ((fresh c r).run (before ++ .register d :: since)).poller.ledger.generation? d.label =
      some generation) : .unregister d.label ∉ since := by
  have hcoherent := (sound_run (sound_fresh c r) (before ++ [.register d])).coherent
  rw [run_append_cons] at hgen
  apply unregister_not_mem_of_generation? hcoherent _ hgen
  rw [run_concat]
  exact Nat.le_of_eq h.generation_eq

/-- Every definition of a run goes back to a registration that is still present. -/
theorem exists_registration (c : Cadence) (r : Registry) (as : List Action) {d : Definition}
    (hd : d ∈ ((fresh c r).run as).poller.definitions) :
    ∃ before since generation, as = before ++ .register d :: since ∧
      RegisteredAt (fresh c r) before d generation ∧ .unregister d.label ∉ since := by
  obtain ⟨generation, hgen⟩ := (sound_run (sound_fresh c r) as).coherent.generation?_of_mem hd
  obtain ⟨before, since, rfl, hregistered⟩ := exists_registeredAt c r as hd hgen
  exact ⟨before, since, generation, rfl, hregistered, hregistered.kept hgen⟩

/-- Whether a run issued a task on a tick, after the actions `before`. -/
structure IssuedAt (s₀ : Service) (before : List Action) (t : Task) : Prop where
  current : (s₀.run before).poller.isCurrent t.fetch.epoch = true
  issued : { number := t.number, fetch := t.fetch } ∈
    ((s₀.run before).step (.tick t.fetch.epoch)).2.issued

/-- Whether a run let a task ask the source, after the actions `before`. -/
def AskedAt (s₀ : Service) (before : List Action) (t : Task) : Prop :=
  ((s₀.run before).step (.ask t.number)).2.asked = some t.fetch

theorem Step.of_mem_issued {s s' : Service} {a : Action} {e : Effect} (h : Step s a s' e) {t : Task}
    (ht : t ∈ e.issued) :
    t.asked = false ∧ s.poller.isCurrent t.fetch.epoch = true ∧
      t.fetch.definition ∈ s.poller.definitions ∧
      s.poller.ledger.generation? t.fetch.definition.label = some t.fetch.generation := by
  cases h with
  | tick epoch current issue =>
      obtain rfl := congrArg Prod.fst issue
      obtain ⟨hfetch, hasked, -⟩ := of_mem_tasksFrom ht
      obtain ⟨hepoch, hmem, hgen⟩ := Poller.of_mem_issue hfetch
      exact ⟨hasked, hepoch ▸ current, hmem, hgen⟩
  | _ => cases ht

/-- Every task of a run goes back to the tick that issued it, and a task that has asked the source
did so since then. -/
theorem exists_issuedAt (c : Cadence) (r : Registry) (as : List Action) {t : Task}
    (ht : t ∈ ((fresh c r).run as).tasks) :
    ∃ before since, as = before ++ .tick t.fetch.epoch :: since ∧
      IssuedAt (fresh c r) before t ∧
      (t.asked = true → ∃ waiting pending, since = waiting ++ .ask t.number :: pending ∧
        AskedAt (fresh c r) (before ++ .tick t.fetch.epoch :: waiting) t) := by
  induction as using List.reverseRecOn generalizing t with
  | nil => cases ht
  | append_singleton as a ih =>
      rw [run_concat] at ht
      have hstep := ((fresh c r).run as).step_spec a
      have hnumbered := (sound_run (sound_fresh c r) as).numbered
      rcases hstep.mem_tasks hnumbered ht with ht | ⟨hissued, hasked, rfl⟩ |
          ⟨u, hu, -, rfl, hasked, rfl⟩
      · obtain ⟨before, since, rfl, hissued, hasked⟩ := ih ht
        refine ⟨before, since ++ [a], History.cut_append _ _ _ _, hissued, fun h => ?_⟩
        obtain ⟨waiting, pending, rfl, hat⟩ := hasked h
        exact ⟨waiting, pending ++ [a], History.cut_append _ _ _ _, hat⟩
      · refine ⟨as, [], rfl, ⟨(hstep.of_mem_issued hissued).2.1, ?_⟩, fun h => ?_⟩
        · have hsame : t = { number := t.number, fetch := t.fetch } := by
            rw [← hasked]
          rwa [← hsame]
        · rw [hasked] at h
          cases h
      · obtain ⟨before, since, rfl, hissued, -⟩ := ih hu
        exact ⟨before, since ++ [.ask u.number], History.cut_append _ _ _ _,
          ⟨hissued.current, hissued.issued⟩, fun _ => ⟨since, [], rfl, hasked⟩⟩

end Service

end MetricWatch
