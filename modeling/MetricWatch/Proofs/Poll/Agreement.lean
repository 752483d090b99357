import MetricWatch.Proofs.Poll.Stream

/-!
The ledger's last success and the registry's cached sample. Both go back to the samples that were taken
in for a registration: the ledger has the time of the last one with a value, the registry the last such
one among those that it accepted. They agree unless a sample with a value comes out of order.
-/

namespace MetricWatch

namespace Sample

/-- Whether the last sample with a value is no older than any before it. -/
def LastUpToDate (xs : List Sample) : Prop :=
  ∀ earlier x later, xs = earlier ++ x :: later → x.isFailure = false →
    (∀ y ∈ later, y.isFailure = true) → UpToDate earlier x

theorem lastValued_accepted {xs : List Sample} (h : LastUpToDate xs) :
    lastValued (accepted xs) = lastValued xs := by
  induction xs using List.reverseRecOn with
  | nil => rfl
  | append_singleton xs x ih =>
      rw [accepted_concat, lastValued_concat]
      cases hx : x.isFailure with
      | true =>
          have hinit : LastUpToDate xs := by
            rintro earlier y later rfl hy hlater
            refine h earlier y (later ++ [x]) (History.cut_append _ _ _ _) hy ?_
            rw [List.forall_mem_append, List.forall_mem_singleton]
            exact ⟨hlater, hx⟩
          rw [if_pos rfl, ← ih hinit]
          split
          · rw [lastValued_concat, if_pos hx]
          · rw [List.append_nil]
      | false =>
          have hdate : UpToDate xs x := h xs x [] rfl hx nofun
          rw [if_neg Bool.false_ne_true, if_pos hdate, lastValued_concat, hx,
            if_neg Bool.false_ne_true]

theorem lastUpToDate_of_pairwise {xs : List Sample}
    (h : xs.Pairwise (·.timestamp ≤ ·.timestamp)) : LastUpToDate xs := by
  rintro earlier x later rfl - - y hy
  exact (List.pairwise_append.1 h).2.2 y hy x List.mem_cons_self

theorem lastValued_eq_none_iff {xs : List Sample} :
    lastValued xs = none ↔ ∀ x ∈ xs, x.isFailure = true := by
  simp [lastValued]

theorem lastValued_accepted_eq_none {xs : List Sample} (h : lastValued xs = none) :
    lastValued (accepted xs) = none :=
  lastValued_eq_none_iff.2 fun x hx => lastValued_eq_none_iff.1 h x (mem_of_mem_accepted hx)

end Sample

open Sample

namespace Service

/-- When a label last succeeded, as the ledger has it. -/
def lastSuccess? (s : Service) (label : String) : Option UInt64 :=
  (s.poller.ledger.series? label).bind (·.lastSuccess)

/-- Whether ledger and registry agree on when a label last succeeded. -/
def Agrees (s : Service) (label : String) : Prop :=
  ∀ timestamp, s.lastSuccess? label = some timestamp ↔
    ∃ x, s.poller.registry.latest.get? label = some x ∧ x.timestamp = timestamp

/-- A sample that is older than the one before it is the last success for the ledger, while the registry
keeps the one before it. -/
theorem disagree_out_of_order :
    (∀ a ∈ feeding .requests [.ok "L1" 10 1, .ok "L1" 5 2], ¬ a.Writes) ∧
      .requests ∈ ((fresh .everySecond {}).run
        (feeding .requests [.ok "L1" 10 1, .ok "L1" 5 2])).poller.definitions ∧
      ¬ ((fresh .everySecond {}).run
        (feeding .requests [.ok "L1" 10 1, .ok "L1" 5 2])).Agrees Definition.requests.label := by
  refine ⟨?_, ?_, ?_⟩
  · simp [feeding, Action.Writes]
  · decide
  · intro h
    obtain ⟨x, hlatest, htimestamp⟩ := (h 5).1 rfl
    have hcached : x = .ok "L1" 10 1 := Option.some.inj (hlatest.symm.trans rfl)
    rw [hcached] at htimestamp
    cases htimestamp

/-- What ledger and registry have of a registration that has taken in some samples. -/
structure Account (s : Service) (label : String) (xs : List Sample) : Prop where
  lastSuccess : s.lastSuccess? label = (lastValued xs).map (·.timestamp)
  latest : s.poller.registry.latest.get? label = lastValued (accepted xs)
  absent : s.lastSuccess? label = none → s.poller.registry.latest.get? label = none
  agrees : LastUpToDate xs → s.Agrees label
  agrees_of_ordered : xs.Pairwise (·.timestamp ≤ ·.timestamp) → s.Agrees label

theorem agrees_iff {s : Service} {label : String} :
    s.Agrees label ↔
      s.lastSuccess? label = (s.poller.registry.latest.get? label).map (·.timestamp) := by
  rw [Option.ext_iff]
  apply forall_congr'
  intro timestamp
  rw [Option.map_eq_some_iff]

theorem Follows.account {s : Service} {label : String} {generation : Nat} {xs : List Sample}
    (h : s.Follows label generation xs) : s.Account label xs := by
  obtain ⟨series, hseries, -, hrecord⟩ := h.series
  have hlast : s.lastSuccess? label = (lastValued xs).map (·.timestamp) := by
    rw [lastSuccess?, hseries, Option.bind_some, hrecord.lastSuccess]
  have hagrees (hdate : LastUpToDate xs) : s.Agrees label := by
    rw [agrees_iff, hlast, h.registry.latest, lastValued_accepted hdate]
  refine ⟨hlast, h.registry.latest, ?_, hagrees, fun hxs => hagrees (lastUpToDate_of_pairwise hxs)⟩
  intro hnone
  rw [hlast, Option.map_eq_none_iff] at hnone
  rw [h.registry.latest, lastValued_accepted_eq_none hnone]

/-- As long as only the poller writes to its registry, the last success of a registered label and its
cached sample are what the samples since its registration make of them. -/
theorem account_of_registered (c : Cadence) {r : Registry} (hr : r.Untouched) {as : List Action}
    (hwrites : ∀ a ∈ as, ¬ a.Writes) {d : Definition}
    (hd : d ∈ ((fresh c r).run as).poller.definitions) :
    ∃ before since generation, as = before ++ .register d :: since ∧
      RegisteredAt (fresh c r) before d generation ∧ .unregister d.label ∉ since ∧
      ((fresh c r).run as).Account d.label
        (((fresh c r).run (before ++ [.register d])).samples d.label generation since) := by
  have hfresh := sound_fresh c r
  obtain ⟨generation, hgen⟩ := (sound_run hfresh as).coherent.generation?_of_mem hd
  obtain ⟨before, since, rfl, hregistered⟩ := exists_registeredAt c r as hd hgen
  rw [List.forall_mem_append, List.forall_mem_cons] at hwrites
  obtain ⟨hbefore, -, hsince⟩ := hwrites
  have hfollows := hregistered.follows hr hbefore
  have hsound := sound_run hfresh (before ++ [.register d])
  rw [run_append_cons] at hgen ⊢
  have hkept : .unregister d.label ∉ since := by
    refine unregister_not_mem_of_generation? hsound.coherent ?_ hgen
    rw [run_concat]
    exact Nat.le_of_eq hregistered.generation_eq
  exact ⟨before, since, generation, rfl, hregistered, hkept,
    (follows_run hsound hfollows hsince hkept).1.account⟩

theorem account_of_registered_in_order :
    (∀ a ∈ feeding .requests [.ok "L1" 5 1, .failed "L1" 7 "timeout", .ok "L1" 10 2],
        ¬ a.Writes) ∧
      ∃ before since generation,
        feeding .requests [.ok "L1" 5 1, .failed "L1" 7 "timeout", .ok "L1" 10 2] =
            before ++ .register .requests :: since ∧
          RegisteredAt (fresh .everySecond {}) before .requests generation ∧
          .unregister "L1" ∉ since ∧
          ((fresh .everySecond {}).run
            (feeding .requests [.ok "L1" 5 1, .failed "L1" 7 "timeout", .ok "L1" 10 2])).Account "L1"
              (((fresh .everySecond {}).run (before ++ [.register .requests])).samples "L1"
                generation since) := by
  have hwrites : ∀ a ∈ feeding .requests [.ok "L1" 5 1, .failed "L1" 7 "timeout", .ok "L1" 10 2],
      ¬ a.Writes := by
    simp [feeding, Action.Writes]
  exact ⟨hwrites,
    account_of_registered .everySecond (r := {}) ⟨rfl, rfl⟩ hwrites (d := .requests) (by decide)⟩

end Service

end MetricWatch
