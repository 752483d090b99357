import MetricWatch.Proofs.Poll.Stream

/-!
Registry and registrations go together. As long as nobody but the poller writes to its registry, it knows
registered labels only, and what it has of a label was made by the samples of the present registration:
the cached sample, and how new a sample has to be.
-/

namespace MetricWatch

open Sample

namespace Registry

variable {r : Registry} {label : String} {x : Sample}

/-- Whether a registry has of a label what some samples make of one that was not known before. -/
structure Reflects (label : String) (xs : List Sample) (r : Registry) : Prop where
  latest : r.latest.get? label = lastValued (accepted xs)
  newest : r.newest.get? label = (accepted xs).getLast?.map (·.timestamp)

theorem Records.newest_taking {xs : List Sample} (h : r.Records x.label xs)
    (hnewest : r.newest.get? x.label = (accepted xs).getLast?.map (·.timestamp)) :
    (r.taking x).newest.get? x.label = (accepted (xs ++ [x])).getLast?.map (·.timestamp) := by
  rw [Registry.newest_taking, accepted_concat]
  by_cases hx : r.accepts x = true
  · rw [if_pos ⟨rfl, hx⟩, if_pos ((h.accepts x rfl).1 hx), List.getLast?_concat, Option.map_some]
  · rw [if_neg (fun h => hx h.2), if_neg (mt (h.accepts x rfl).2 hx), List.append_nil, hnewest]

end Registry

namespace Service

variable {s s' : Service} {a : Action} {e : Effect} {label : String} {generation : Nat}
  {xs : List Sample}

/-- What an action that does not write past the poller can do to what its registry knows of labels. -/
inductive RegistryStep (s : Service) : Action → Registry → Prop where
  | taken (t : Task) (x : Sample) (mem : t ∈ s.tasks) (asked : t.asked = true)
      (passes : s.Passes t x) :
      RegistryStep s (.reply t.number x) (s.poller.registry.taking x)
  | removed (d : Definition) (known : d ∈ s.poller.definitions) :
      RegistryStep s (.unregister d.label) (s.poller.registry.remove d.label)
  | same {a : Action} {r : Registry} (silent : ∀ label generation,
      s.delivered label generation a = none) (latest : r.latest = s.poller.registry.latest)
      (newest : r.newest = s.poller.registry.newest) : RegistryStep s a r

theorem Step.registryStep (h : Step s a s' e) (hs : s.Numbered) (hwrites : ¬ a.Writes) :
    RegistryStep s a s'.poller.registry := by
  cases h with
  | inert answer h => exact .same (delivered_of_inert h) rfl rfl
  | unregister d known => exact .removed d known
  | close t mem closes => exact .same (delivered_of_closes hs mem closes) rfl rfl
  | deliver t x mem asked passes => exact .taken t x mem asked passes
  | registry r =>
      cases r with
      | subscribe => exact .same (fun _ _ => rfl) rfl rfl
      | unsubscribe => exact .same (fun _ _ => rfl) rfl rfl
      | _ => exact absurd trivial hwrites
  | _ => exact .same (fun _ _ => rfl) rfl rfl

theorem Step.newest_eq (h : Step s a s' e) (hs : s.Numbered)
    (hfollows : s.Follows label generation xs) (hwrites : ¬ a.Writes)
    (hkept : a ≠ .unregister label)
    (hnewest : s.poller.registry.newest.get? label =
      (accepted xs).getLast?.map (·.timestamp)) :
    s'.poller.registry.newest.get? label =
      (accepted (xs ++ (s.delivered label generation a).toList)).getLast?.map
        (·.timestamp) := by
  have hstep := h.registryStep hs hwrites
  generalize s'.poller.registry = r at hstep ⊢
  cases hstep with
  | taken t x mem asked passes =>
      rw [delivered_reply hs mem asked passes, hfollows.isFor_of_passes passes]
      by_cases hlabel : x.label = label
      · subst hlabel
        rw [decide_eq_true rfl, if_pos rfl, Option.toList_some]
        exact hfollows.registry.newest_taking hnewest
      · rw [decide_eq_false hlabel, if_neg Bool.false_ne_true, Option.toList_none,
          List.append_nil, Registry.newest_taking, if_neg fun h => hlabel h.1]
        exact hnewest
  | removed d =>
      have hne : d.label ≠ label := fun hsame => hkept (hsame ▸ rfl)
      have hdelivered : s.delivered label generation (.unregister d.label) = none := rfl
      rw [hdelivered, Option.toList_none, List.append_nil, ← hnewest]
      exact LabelMap.get?_erase_of_ne hne
  | same silent latest newest =>
      rw [silent, Option.toList_none, List.append_nil, newest]
      exact hnewest

/-- Whether the registry has no watermark for the labels that are not registered. -/
def Unmarked (p : Poller) : Prop :=
  ∀ label, label ∉ p.definitions.map (·.label) → p.registry.newest.get? label = none

theorem Step.unmarked (h : Step s a s' e) (hcoherent : s.poller.Coherent) (hwrites : ¬ a.Writes)
    (hs : Unmarked s.poller) : Unmarked s'.poller := by
  intro label hlabel
  cases h with
  | register d =>
      apply hs label
      rw [List.map_append, List.mem_append, not_or] at hlabel
      exact hlabel.1
  | unregister d =>
      refine (LabelMap.get?_erase _ _ _).trans ?_
      split
      · rfl
      · rename_i hne
        apply hs label
        rwa [Poller.labels_eraseP, List.mem_erase_of_ne (Ne.symm hne)] at hlabel
  | deliver t x mem asked passes =>
      have hne : x.label ≠ label := fun hsame => hlabel (hsame ▸ passes.mem_labels hcoherent)
      exact (Registry.newest_taking _ _ _).trans ((if_neg fun h => hne h.1).trans (hs label hlabel))
  | registry r =>
      cases r with
      | subscribe => exact hs label hlabel
      | unsubscribe => exact hs label hlabel
      | _ => exact absurd trivial hwrites
  | _ => exact hs label hlabel

theorem unmarked_run (c : Cadence) {r : Registry} (hr : r.Untouched) {as : List Action}
    (hwrites : ∀ a ∈ as, ¬ a.Writes) : Unmarked ((fresh c r).run as).poller := by
  refine (run_induct (P := fun s => s.poller.Coherent ∧ Unmarked s.poller)
    ⟨(sound_fresh c r).coherent, ?_⟩ ?_).2
  · intro label _
    rw [fresh, hr.newest, LabelMap.get?_empty]
  · intro s a s' e ha hs h
    exact ⟨h.coherent hs.1, h.unmarked hs.1 (hwrites a ha) hs.2⟩

theorem newest_run {s : Service} (hs : s.Sound) (hfollows : s.Follows label generation [])
    (hnewest : s.poller.registry.newest.get? label = none) {as : List Action}
    (hwrites : ∀ a ∈ as, ¬ a.Writes) (hkept : .unregister label ∉ as) :
    (s.run as).poller.registry.newest.get? label =
      (accepted (s.samples label generation as)).getLast?.map (·.timestamp) := by
  induction as using List.reverseRecOn with
  | nil => exact hnewest
  | append_singleton as a ih =>
      rw [List.forall_mem_append, List.forall_mem_singleton] at hwrites
      rw [List.mem_append, List.mem_singleton, not_or] at hkept
      have hrun := (follows_run hs hfollows hwrites.1 hkept.1).1
      rw [run_concat, samples_concat]
      exact ((s.run as).step_spec a).newest_eq (sound_run hs as).numbered hrun hwrites.2
        (Ne.symm hkept.2) (ih hwrites.1 hkept.1)

theorem RegisteredAt.reflects {c : Cadence} {r : Registry} {before since : List Action}
    {d : Definition} (h : RegisteredAt (fresh c r) before d generation) (hr : r.Untouched)
    (hwrites : ∀ a ∈ before ++ .register d :: since, ¬ a.Writes)
    (hkept : .unregister d.label ∉ since) :
    ((fresh c r).run (before ++ .register d :: since)).poller.registry.Reflects d.label
      (((fresh c r).run (before ++ [.register d])).samples d.label generation since) := by
  rw [List.forall_mem_append, List.forall_mem_cons] at hwrites
  obtain ⟨hbefore, -, hsince⟩ := hwrites
  have hsound := sound_run (sound_fresh c r) (before ++ [.register d])
  have hfollows := h.follows hr hbefore
  have hnewest : ((fresh c r).run (before ++ [.register d])).poller.registry.newest.get? d.label =
      none := by
    rw [run_concat, step_register_of_new (new_of_accepted h.accepted)]
    exact unmarked_run c hr hbefore d.label (new_of_accepted h.accepted)
  rw [run_append_cons (fresh c r) before (.register d) since]
  exact ⟨(follows_run hsound hfollows hsince hkept).1.registry.latest,
    newest_run hsound hfollows hnewest hsince hkept⟩

theorem generation?_of_delivered {x : Sample} (h : s.delivered label generation a = some x) :
    x.label = label ∧ s.poller.ledger.generation? label = some generation := by
  cases a with
  | reply number y =>
      obtain ⟨t, -, ht⟩ := Option.bind_eq_some_iff.1 h
      split at ht
      · rename_i hpasses
        obtain rfl := Option.some.inj ht
        obtain ⟨⟨hlabel, -, hcurrent⟩, hfor⟩ := hpasses
        rw [Fetch.isFor, Bool.and_eq_true, decide_eq_true_iff, decide_eq_true_iff] at hfor
        obtain ⟨rfl, rfl⟩ := hfor
        exact ⟨hlabel, Ledger.isCurrent_iff.1 hcurrent⟩
      · cases ht
  | _ => cases h

theorem exists_middle_of_append_eq {α : Type} {a b : α} {xs ys us vs : List α}
    (h : xs ++ a :: ys = us ++ b :: vs) (hne : a ≠ b) (ha : a ∉ vs) :
    ∃ middle, us = xs ++ a :: middle ∧ ys = middle ++ b :: vs := by
  rcases History.cut_cases h with ⟨-, hsame, -⟩ | hlater | ⟨middle, -, rfl⟩
  · exact absurd hsame hne
  · exact hlater
  · exact absurd (List.mem_append_right _ List.mem_cons_self) ha

/-- What the registry has to do with the registrations after some actions. -/
structure CacheHolds (s₀ : Service) (as : List Action) : Prop where
  registered : ∀ label, label ∈ (s₀.run as).poller.registry.latest.labels ∨
    label ∈ (s₀.run as).poller.registry.newest.labels →
      label ∈ (s₀.run as).poller.definitions.map (·.label)
  /-- What is known of a registered label comes from the samples of its present registration. -/
  present : ∀ d ∈ (s₀.run as).poller.definitions, ∃ before since generation,
    as = before ++ .register d :: since ∧ RegisteredAt s₀ before d generation ∧
      .unregister d.label ∉ since ∧
      (s₀.run as).poller.registry.Reflects d.label
        ((s₀.run (before ++ [.register d])).samples d.label generation since)
  /-- A label that was taken off is cached only after a fetch of a later registration succeeded. -/
  absent : ∀ before label after, as = before ++ .unregister label :: after →
    ∀ x, (s₀.run as).poller.registry.latest.get? label = some x →
      ∃ d middle since generation, d.label = label ∧ after = middle ++ .register d :: since ∧
        RegisteredAt s₀ (before ++ .unregister label :: middle) d generation ∧
        x ∈ (s₀.run (before ++ .unregister label :: middle ++ [.register d])).samples label
          generation since ∧
        x.isFailure = false
  /-- The first sample of a registration is accepted, whatever its timestamp. -/
  first : ∀ before d generation during a x, as = before ++ .register d :: (during ++ [a]) →
    RegisteredAt s₀ before d generation →
    (s₀.run (before ++ [.register d])).samples d.label generation during = [] →
    (s₀.run (before ++ .register d :: during)).delivered d.label generation a = some x →
      .sample x ∈ ((s₀.run (before ++ .register d :: during)).step a).2.events ∧
        (s₀.run as).poller.registry.newest.get? d.label = some x.timestamp ∧
        (s₀.run as).poller.registry.latest.get? d.label =
          if x.isFailure then none else some x

section

variable {c : Cadence} {r : Registry} {as : List Action}

theorem mem_labels_of_known (hr : r.Untouched) (hwrites : ∀ a ∈ as, ¬ a.Writes)
    (h : label ∈ ((fresh c r).run as).poller.registry.latest.labels ∨
      label ∈ ((fresh c r).run as).poller.registry.newest.labels) :
    label ∈ ((fresh c r).run as).poller.definitions.map (·.label) := by
  by_contra hlabel
  have hclean := clean_run (sound_fresh c r).coherent (clean_fresh c hr) hwrites label hlabel
  have hunmarked := unmarked_run c hr hwrites label hlabel
  rw [LabelMap.mem_labels, LabelMap.mem_labels, hclean.latest, hunmarked] at h
  rcases h with h | h <;> cases h

theorem exists_reflects (hr : r.Untouched) (hwrites : ∀ a ∈ as, ¬ a.Writes) {d : Definition}
    (hd : d ∈ ((fresh c r).run as).poller.definitions) :
    ∃ before since generation, as = before ++ .register d :: since ∧
      RegisteredAt (fresh c r) before d generation ∧ .unregister d.label ∉ since ∧
      ((fresh c r).run as).poller.registry.Reflects d.label
        (((fresh c r).run (before ++ [.register d])).samples d.label generation since) := by
  obtain ⟨before, since, generation, rfl, hregistered, hkept⟩ := exists_registration c r as hd
  exact ⟨before, since, generation, rfl, hregistered, hkept, hregistered.reflects hr hwrites hkept⟩

theorem exists_registration_of_cached (hr : r.Untouched) {before after : List Action}
    (hwrites : ∀ a ∈ before ++ .unregister label :: after, ¬ a.Writes) {x : Sample}
    (hx : ((fresh c r).run (before ++ .unregister label :: after)).poller.registry.latest.get? label =
      some x) :
    ∃ d middle since generation, d.label = label ∧ after = middle ++ .register d :: since ∧
      RegisteredAt (fresh c r) (before ++ .unregister label :: middle) d generation ∧
      x ∈ ((fresh c r).run (before ++ .unregister label :: middle ++ [.register d])).samples label
        generation since ∧
      x.isFailure = false := by
  have hlabel := mem_labels_of_known hr hwrites
    (.inl (LabelMap.mem_labels.2 (Option.isSome_iff_exists.2 ⟨x, hx⟩)))
  obtain ⟨d, hd, rfl⟩ := List.mem_map.1 hlabel
  obtain ⟨earlier, since, generation, hsplit, hregistered, hkept, hreflects⟩ :=
    exists_reflects hr hwrites hd
  -- The registration that made the cached sample came after the label was taken off.
  obtain ⟨middle, rfl, rfl⟩ := exists_middle_of_append_eq hsplit nofun hkept
  rw [hreflects.latest] at hx
  obtain ⟨hmem, hvalued⟩ := of_lastValued_eq_some hx
  exact ⟨d, middle, since, generation, rfl, rfl, hregistered, mem_of_mem_accepted hmem, hvalued⟩

theorem RegisteredAt.first_accepted {before during : List Action} {d : Definition}
    (h : RegisteredAt (fresh c r) before d generation) (hr : r.Untouched) {x : Sample}
    (hwrites : ∀ b ∈ before ++ .register d :: (during ++ [a]), ¬ b.Writes)
    (hnone : ((fresh c r).run (before ++ [.register d])).samples d.label generation during = [])
    (hx : ((fresh c r).run (before ++ .register d :: during)).delivered d.label generation a =
      some x) :
    .sample x ∈ (((fresh c r).run (before ++ .register d :: during)).step a).2.events ∧
      ((fresh c r).run (before ++ .register d :: (during ++ [a]))).poller.registry.Reflects d.label
        [x] := by
  obtain ⟨-, hgen⟩ := generation?_of_delivered hx
  have hkept := h.kept hgen
  have hne : a ≠ .unregister d.label := by
    rintro rfl
    cases hx
  constructor
  · rw [List.forall_mem_append, List.forall_mem_cons, List.forall_mem_append] at hwrites
    obtain ⟨hbefore, -, hduring, ha⟩ := hwrites
    have hsound := sound_run (sound_fresh c r) (before ++ [.register d])
    have hfollows := (follows_run hsound (h.follows hr hbefore) hduring hkept).1
    rw [hnone] at hfollows
    rw [run_append_cons] at hx ⊢
    have hheard := ((((fresh c r).run (before ++ [.register d])).run during).step_spec a).continues
      (sound_run hsound during) hfollows (ha a List.mem_cons_self) hne |>.heard
    rw [hx, Option.toList_some, List.flatMap_singleton] at hheard
    have htold (threshold : UInt32) : .sample x ∈ told threshold [] x := by
      simp [told, UpToDate]
    have hmem := hheard ▸ htold _
    exact (List.mem_filter.1 hmem).1
  · have hstays : .unregister d.label ∉ during ++ [a] := by
      rw [List.mem_append, List.mem_singleton, not_or]
      exact ⟨hkept, Ne.symm hne⟩
    have hreflects := h.reflects hr hwrites hstays
    rw [run_append_cons] at hx
    rw [samples_concat, hnone, hx] at hreflects
    exact hreflects

end

/-- As long as only the poller writes to its registry, what is cached of a label and how new its samples
have to be are due to the present registration of the label, and to that alone. -/
theorem cache_holds (c : Cadence) {r : Registry} (hr : r.Untouched) {as : List Action}
    (hwrites : ∀ a ∈ as, ¬ a.Writes) : CacheHolds (fresh c r) as where
  registered label := mem_labels_of_known hr hwrites
  present d := exists_reflects hr hwrites
  absent := by
    rintro before label after rfl x hx
    exact exists_registration_of_cached hr hwrites hx
  first := by
    rintro before d generation during a x rfl hregistered hnone hx
    obtain ⟨hevent, hreflects⟩ := hregistered.first_accepted hr hwrites hnone hx
    refine ⟨hevent, hreflects.newest, hreflects.latest.trans ?_⟩
    cases hvalue : x.isFailure <;> simp [accepted, along, lastValued, UpToDate, hvalue]

/-- A label that is registered anew while a fetch of its first registration is outstanding. This fetch
has a newer sample and is answered first. -/
def registeredAnew : List Action :=
  [.register .requests, .start true, .tick 1, .ask 0, .unregister "L1", .register .requests,
    .tick 1, .ask 1, .reply 0 (.ok "L1" 9 1), .reply 1 (.ok "L1" 3 2)]

theorem cache_holds_registeredAnew :
    (∀ a ∈ registeredAnew, ¬ a.Writes) ∧
      ((fresh .everySecond {}).run registeredAnew).poller.registry.latest.get? "L1" =
        some (.ok "L1" 3 2) ∧
      CacheHolds (fresh .everySecond {}) registeredAnew := by
  have hwrites : ∀ a ∈ registeredAnew, ¬ a.Writes := by
    simp [registeredAnew, Action.Writes]
  exact ⟨hwrites, rfl, cache_holds .everySecond (r := {}) ⟨rfl, rfl⟩ hwrites⟩

end Service

end MetricWatch
