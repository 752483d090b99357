import Mathlib.Data.List.DropRight
import MetricWatch.Proofs.Poll.Calls
import MetricWatch.Proofs.Poll.Samples

/-!
How failures are counted over any sequence of calls. The count, the flag and the change that is reported
are kept apart in a series; all three follow from the calls since the label was registered or last
succeeded.
-/

namespace MetricWatch

open Sample

namespace Ledger

/-- Whether a call sets a label's count of failures back. -/
def Call.resets (label : String) : Call → Bool
  | .track other => other = label
  | .recordSuccess other _ => other = label
  | _ => false

def Call.fails (label : String) : Call → Bool
  | .recordFailure other _ => other = label
  | _ => false

def Call.success? (label : String) : Call → Option UInt64
  | .recordSuccess other timestamp => if other = label then some timestamp else none
  | _ => none

/-- How many failures were recorded for a label since it was registered or last succeeded. -/
def failures (label : String) (calls : List Call) : Nat :=
  (calls.rtakeWhile (!·.resets label)).countP (·.fails label)

/-- When a label last succeeded since it was registered. -/
def lastSuccess? (label : String) (calls : List Call) : Option UInt64 :=
  ((calls.rtakeWhile (!·.tracks label)).filterMap (·.success? label)).getLast?

/-- Whether a call records a failure with no other threshold than the given one. -/
def Call.keepsTo (threshold : UInt32) : Call → Bool
  | .recordFailure _ other => other = threshold
  | _ => true

theorem failures_concat (label : String) (calls : List Call) (c : Call) :
    failures label (calls ++ [c]) =
      if c.resets label then 0 else failures label calls + (c.fails label).toNat := by
  rw [failures, List.rtakeWhile_concat]
  cases c.resets label with
  | true => rfl
  | false =>
      rw [Bool.not_false, if_pos rfl, if_neg Bool.false_ne_true, List.countP_append, failures]
      cases hfails : c.fails label <;> simp [hfails]

theorem lastSuccess?_concat (label : String) (calls : List Call) (c : Call) :
    lastSuccess? label (calls ++ [c]) =
      if c.tracks label then none else (c.success? label).or (lastSuccess? label calls) := by
  rw [lastSuccess?, List.rtakeWhile_concat]
  cases c.tracks label with
  | true => rfl
  | false =>
      rw [Bool.not_false, if_pos rfl, if_neg Bool.false_ne_true, List.filterMap_append, lastSuccess?]
      cases hsuccess : c.success? label <;> simp [hsuccess]

/-- A sample that a call records for a label. Of its value no more counts than whether it has one. -/
def Call.sample? (label : String) : Call → Option Sample
  | .recordSuccess other timestamp => if other = label then some (.ok label timestamp 0) else none
  | .recordFailure other _ => if other = label then some (.failed label 0 "") else none
  | _ => none

/-- The samples that were recorded for a label since it was registered. -/
def recorded (label : String) (calls : List Call) : List Sample :=
  (calls.rtakeWhile (!·.tracks label)).filterMap (·.sample? label)

theorem Call.sample?_of_other {label : String} {c : Call} (h : c.label? ≠ some label) :
    c.sample? label = none := by
  cases c with
  | recordSuccess other _ | recordFailure other _ =>
      have hother : other ≠ label := fun heq => h (congrArg some heq)
      simp [Call.sample?, hother]
  | _ => rfl

theorem recorded_concat (label : String) (calls : List Call) (c : Call) :
    recorded label (calls ++ [c]) =
      if c.tracks label then [] else recorded label calls ++ (c.sample? label).toList := by
  rw [recorded, List.rtakeWhile_concat]
  cases c.tracks label with
  | true => rfl
  | false =>
      rw [Bool.not_false, if_pos rfl, if_neg Bool.false_ne_true, List.filterMap_append, recorded]
      cases hsample : c.sample? label <;> simp [hsample]

theorem failuresAtEnd_recorded (label : String) (calls : List Call) :
    failuresAtEnd (recorded label calls) = failures label calls := by
  induction calls using List.reverseRecOn with
  | nil => rfl
  | append_singleton calls c ih =>
      rw [recorded_concat, failures_concat]
      cases c with
      | track other =>
          by_cases hother : other = label
          · simp [Call.resets, hother, failuresAtEnd]
          · simp [Call.resets, Call.fails, Call.sample?, hother, ih]
      | recordSuccess other timestamp =>
          by_cases hother : other = label
          · simp [Call.resets, Call.sample?, hother, failuresAtEnd_concat, Sample.ok, isFailure]
          · simp [Call.resets, Call.fails, Call.sample?, hother, ih]
      | recordFailure other threshold =>
          by_cases hother : other = label
          · simp [Call.resets, Call.fails, Call.sample?, hother, failuresAtEnd_concat,
              Sample.failed, isFailure, ih]
          · simp [Call.resets, Call.fails, Call.sample?, hother, ih]
      | _ => simp [Call.resets, Call.fails, Call.sample?, ih]

theorem lastValued_recorded (label : String) (calls : List Call) :
    (lastValued (recorded label calls)).map (·.timestamp) = lastSuccess? label calls := by
  induction calls using List.reverseRecOn with
  | nil => rfl
  | append_singleton calls c ih =>
      rw [recorded_concat, lastSuccess?_concat]
      cases c with
      | track other =>
          by_cases hother : other = label
          · simp [hother, lastValued]
          · simp [Call.success?, Call.sample?, hother, ih]
      | recordSuccess other timestamp =>
          by_cases hother : other = label
          · simp [Call.success?, Call.sample?, hother, lastValued_concat, Sample.ok, isFailure]
          · simp [Call.success?, Call.sample?, hother, ih]
      | recordFailure other threshold =>
          by_cases hother : other = label
          · simp [Call.success?, Call.sample?, hother, lastValued_concat, Sample.failed,
              isFailure, ih]
          · simp [Call.success?, Call.sample?, hother, ih]
      | _ => simp [Call.success?, Call.sample?, ih]

section Threshold

variable {threshold : UInt32} (hthreshold : threshold ≠ 0)

include hthreshold

theorem records_effect {c : Call} (hc : c.keepsTo threshold = true) {label : String}
    (hlabel : c.label? = some label) {xs : List Sample} {s : Option Series}
    (hs : ∀ t ∈ s, t.Records threshold xs) (generations : Nat) :
    ∀ t ∈ c.effect generations s, t.Records threshold
      (if c.tracks label then [] else xs ++ (c.sample? label).toList) := by
  intro t ht
  cases c with
  | beginTick => cases hlabel
  | track other =>
      obtain rfl := Option.some.inj hlabel
      obtain rfl := Option.some.inj ht
      rw [if_pos (Call.tracks_iff.2 rfl)]
      exact Series.records_nil hthreshold _
  | forget other => cases ht
  | beginFetch other =>
      obtain ⟨u, hu, rfl⟩ := Option.map_eq_some_iff.1 ht
      simpa [Call.sample?] using (hs u hu).visited
  | finishFetch other generation =>
      obtain ⟨u, hu, rfl⟩ := Option.map_eq_some_iff.1 ht
      simpa [Call.sample?] using (hs u hu).released generation
  | recordSuccess other timestamp =>
      obtain rfl := Option.some.inj hlabel
      obtain ⟨u, hu, rfl⟩ := Option.map_eq_some_iff.1 ht
      have htaking : (u.succeed timestamp).Records threshold (xs ++ [.ok other timestamp 0]) :=
        (hs u hu).taking hthreshold _
      simpa [Call.sample?] using htaking
  | recordFailure other threshold' =>
      obtain rfl := Option.some.inj hlabel
      obtain rfl : threshold' = threshold := of_decide_eq_true hc
      obtain ⟨u, hu, rfl⟩ := Option.map_eq_some_iff.1 ht
      have htaking : (u.fail threshold').Records threshold' (xs ++ [.failed other 0 ""]) :=
        (hs u hu).taking hthreshold _
      simpa [Call.sample?] using htaking

/-- A known label's series keeps account of the samples that were recorded for it. -/
theorem records_recorded {calls : List Call} (h : ∀ c ∈ calls, c.keepsTo threshold = true)
    (label : String) :
    ∀ s ∈ (run {} calls).series? label, s.Records threshold (recorded label calls) := by
  intro s hs
  refine forall_series_run (P := fun calls s => (∀ c ∈ calls, c.keepsTo threshold = true) →
    s.Records threshold (recorded label calls)) ?_ ?_ calls s hs h
  · intro calls c hlabel ih t ht h
    obtain ⟨hcalls, hc⟩ := List.forall_mem_append.1 h
    rw [recorded_concat]
    exact records_effect hthreshold (hc c List.mem_cons_self) hlabel (fun u hu => ih u hu hcalls)
      _ t ht
  · intro calls c hlabel t ih h
    rw [recorded_concat, Call.tracks_of_other hlabel, Call.sample?_of_other hlabel,
      if_neg Bool.false_ne_true, Option.toList_none, List.append_nil]
    exact ih (List.forall_mem_append.1 h).1

end Threshold

/-- The change that a failure is reported as. -/
theorem changeOnFailure_of_records {threshold : UInt32} {xs : List Sample} {s : Series}
    (h : s.Records threshold xs) :
    s.changeOnFailure threshold =
      if s.degraded = false ∧ (s.fail threshold).degraded = true then .degraded threshold
      else .none := by
  have hturns : (s.degraded = false ∧ (s.fail threshold).degraded = true) ↔
      failuresAtEnd xs + 1 = threshold.toNat := by
    rw [← h.failureDegrades_iff, Series.fail, Series.failureDegrades]
    cases s.degraded <;> simp
  have hchange := h.changeOn (.failed "" 0 "")
  rw [Series.changeOn, changeAfter, failuresAtEnd_concat] at hchange
  simp only [hturns]
  exact hchange

/-- How a label stands after some calls, and what the next sample of it is reported as. -/
structure Stands (threshold : UInt32) (calls : List Call) (label : String) : Prop where
  known : ((run {} calls).series? label).isSome = true ↔ Known calls label
  count : ∀ s ∈ (run {} calls).series? label,
    s.failures.toNat = min (failures label calls) (UInt32.size - 1)
  degraded : ∀ s ∈ (run {} calls).series? label,
    s.degraded = true ↔ threshold.toNat ≤ failures label calls
  lastSuccess : ∀ s ∈ (run {} calls).series? label, s.lastSuccess = lastSuccess? label calls
  onFailure : ∀ s ∈ (run {} calls).series? label,
    ∃ s', ((run {} calls).call (.recordFailure label threshold)).2.series? label = some s' ∧
      ((run {} calls).call (.recordFailure label threshold)).1 = .change
        (if s.degraded = false ∧ s'.degraded = true then .degraded threshold else .none)
  onSuccess : ∀ s ∈ (run {} calls).series? label, ∀ timestamp,
    ∃ s', ((run {} calls).call (.recordSuccess label timestamp)).2.series? label = some s' ∧
      ((run {} calls).call (.recordSuccess label timestamp)).1 = .change
        (if s.degraded = true ∧ s'.degraded = false then .recovered else .none)
  unknown : (run {} calls).series? label = none →
    (∀ c : Call, c.label? = some label → c ≠ .track label →
      ((run {} calls).call c).2 = run {} calls) ∧
    (∀ timestamp, ((run {} calls).call (.recordSuccess label timestamp)).1 = .change .none) ∧
    ((run {} calls).call (.recordFailure label threshold)).1 = .change .none

/-- Whatever calls are made, a known label has the failures counted that were recorded since it was
registered or last succeeded, and is degraded from the threshold on. What a sample is reported as is just
how the flag turns. -/
theorem failures_counted {threshold : UInt32} (hthreshold : threshold ≠ 0) {calls : List Call}
    (h : ∀ c ∈ calls, c.keepsTo threshold = true) (label : String) : Stands threshold calls label := by
  have hrecords := records_recorded hthreshold h label
  constructor
  · exact isSome_series?_run calls label
  · intro s hs
    rw [(hrecords s hs).failures, failuresAtEnd_recorded]
  · intro s hs
    rw [(hrecords s hs).degraded, failuresAtEnd_recorded, decide_eq_true_iff]
  · intro s hs
    rw [(hrecords s hs).lastSuccess, lastValued_recorded]
  · intro s hs
    refine ⟨s.fail threshold, ?_, ?_⟩
    · rw [series?_call, hs]
      exact if_pos rfl
    · rw [← changeOnFailure_of_records (hrecords s hs), call, recordFailure, hs]
      rfl
  · intro s hs timestamp
    refine ⟨s.succeed timestamp, ?_, ?_⟩
    · rw [series?_call, hs]
      exact if_pos rfl
    · rw [call, recordSuccess, hs]
      change Answer.change (if s.degraded = true then .recovered else .none) = _
      simp [Series.succeed]
  · intro hnone
    refine ⟨fun c => call_of_unknown hnone, fun timestamp => ?_, ?_⟩
    · rw [call, recordSuccess, hnone]
      rfl
    · rw [call, recordFailure, hnone]
      rfl

/-- Two failures of a label, with another label's failure and the end of a stale fetch between them. -/
def twice : List Call :=
  [.track "L1", .beginFetch "L1", .recordFailure "L1" 2, .track "L2", .recordFailure "L2" 2,
    .finishFetch "L1" 7, .forget "L3", .recordFailure "L1" 2]

theorem failures_counted_twice :
    (2 : UInt32) ≠ 0 ∧ (∀ c ∈ twice, c.keepsTo 2 = true) ∧
      (∃ s, (run {} twice).series? "L1" = some s ∧ s.failures.toNat = 2 ∧ s.degraded = true) ∧
      ((run {} twice).call (.recordSuccess "L1" 9)).1 = .change .recovered ∧
      ((run {} twice).call (.recordFailure "L2" 2)).1 = .change (.degraded 2) ∧
      ((run {} twice).call (.recordFailure "L3" 2)).2 = run {} twice := by
  have hkeeps : ∀ c ∈ twice, c.keepsTo 2 = true := by decide
  have h1 := failures_counted (by decide) hkeeps "L1"
  have h2 := failures_counted (by decide) hkeeps "L2"
  have h3 := failures_counted (by decide) hkeeps "L3"
  obtain ⟨s, hs⟩ := Option.isSome_iff_exists.1 (h1.known.2 ⟨[], _, rfl, by decide⟩)
  refine ⟨by decide, hkeeps, ⟨s, hs, ?_, ?_⟩, ?_, ?_, ?_⟩
  · exact h1.count s hs
  · exact (h1.degraded s hs).2 (by decide)
  · decide
  · decide
  · exact (h3.unknown (by decide)).1 _ rfl nofun

end Ledger

end MetricWatch
