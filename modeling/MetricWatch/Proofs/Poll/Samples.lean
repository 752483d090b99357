import Mathlib.Data.List.Induction
import MetricWatch.Proofs.Poll.Poller

/-!
What the samples of one registration lead to, said of the list of these samples alone: what subscribers
hear of each, which of them the registry accepts, and how the failures at the end are counted. The
series and the registry are then shown to keep account of just that.
-/

namespace MetricWatch

universe u v

/-- What each element of a list leads to, given those before it. -/
def along {α : Type u} {β : Type v} (f : List α → α → List β) (earlier : List α) :
    List α → List β
  | [] => []
  | x :: xs => f earlier x ++ along f (earlier ++ [x]) xs

theorem along_append {α : Type u} {β : Type v} (f : List α → α → List β)
    (earlier xs ys : List α) :
    along f earlier (xs ++ ys) = along f earlier xs ++ along f (earlier ++ xs) ys := by
  induction xs generalizing earlier with
  | nil => rw [List.nil_append, List.append_nil, along, List.nil_append]
  | cons x xs ih =>
      rw [List.cons_append, along, ih, along, List.append_assoc, List.append_assoc,
        List.singleton_append]

namespace Sample

/-- How many samples at the end of a list have no value. -/
def failuresAtEnd (xs : List Sample) : Nat := (xs.reverse.takeWhile (·.isFailure)).length

/-- The last sample of a list that has a value. -/
def lastValued (xs : List Sample) : Option Sample := (xs.filter (!·.isFailure)).getLast?

/-- Whether a sample is no older than any of some earlier ones. -/
def UpToDate (earlier : List Sample) (x : Sample) : Prop :=
  ∀ y ∈ earlier, y.timestamp ≤ x.timestamp

instance (earlier : List Sample) (x : Sample) : Decidable (UpToDate earlier x) :=
  inferInstanceAs (Decidable (∀ y ∈ earlier, y.timestamp ≤ x.timestamp))

/-- The samples of a list that are no older than any before them. -/
def accepted (xs : List Sample) : List Sample :=
  along (fun earlier x => if UpToDate earlier x then [x] else []) [] xs

/-- How a sample changes the standing of a series that has had some samples before: `threshold`
failures in a row make it degraded, and the next value makes it recover. -/
def changeAfter (threshold : UInt32) (earlier : List Sample) (x : Sample) : Change :=
  if x.isFailure then
    if failuresAtEnd (earlier ++ [x]) = threshold.toNat then .degraded threshold else .none
  else if threshold.toNat ≤ failuresAtEnd earlier then .recovered else .none

/-- What subscribers hear of a sample, given the samples before it. -/
def told (threshold : UInt32) (earlier : List Sample) (x : Sample) : List Event :=
  (if UpToDate earlier x then [.sample x] else []) ++
    ((changeAfter threshold earlier x).event? x).toList

/-- What subscribers hear of the samples of a registration. -/
def stream (threshold : UInt32) (xs : List Sample) : List Event := along (told threshold) [] xs

theorem failuresAtEnd_concat (xs : List Sample) (x : Sample) :
    failuresAtEnd (xs ++ [x]) = if x.isFailure then failuresAtEnd xs + 1 else 0 := by
  rw [failuresAtEnd, List.reverse_append, List.reverse_singleton, List.singleton_append,
    List.takeWhile_cons]
  split <;> rfl

theorem lastValued_concat (xs : List Sample) (x : Sample) :
    lastValued (xs ++ [x]) = if x.isFailure then lastValued xs else some x := by
  rw [lastValued, List.filter_append, lastValued]
  cases h : x.isFailure <;> simp [h]

theorem of_lastValued_eq_some {xs : List Sample} {x : Sample} (h : lastValued xs = some x) :
    x ∈ xs ∧ x.isFailure = false := by
  have hmem := List.mem_of_getLast? h
  rw [List.mem_filter, Bool.not_eq_true'] at hmem
  exact hmem

theorem accepted_concat (xs : List Sample) (x : Sample) :
    accepted (xs ++ [x]) = accepted xs ++ if UpToDate xs x then [x] else [] := by
  rw [accepted, along_append, accepted, List.nil_append, along, along, List.append_nil]

theorem mem_of_mem_accepted {xs : List Sample} {x : Sample} (h : x ∈ accepted xs) : x ∈ xs := by
  induction xs using List.reverseRecOn with
  | nil => cases h
  | append_singleton xs y ih =>
      rw [accepted_concat, List.mem_append] at h
      rcases h with h | h
      · exact List.mem_append_left _ (ih h)
      · split at h
        · exact List.mem_append_right _ h
        · cases h

theorem stream_concat (threshold : UInt32) (xs : List Sample) (x : Sample) :
    stream threshold (xs ++ [x]) = stream threshold xs ++ told threshold xs x := by
  rw [stream, along_append, stream, List.nil_append, along, along, List.append_nil]

end Sample

open Sample

namespace Series

/-- Whether a series has kept account of some samples since its registration. -/
structure Records (threshold : UInt32) (xs : List Sample) (s : Series) : Prop where
  failures : s.failures.toNat = min (failuresAtEnd xs) (UInt32.size - 1)
  degraded : s.degraded = decide (threshold.toNat ≤ failuresAtEnd xs)
  lastSuccess : s.lastSuccess = (lastValued xs).map (·.timestamp)

theorem toNat_increased (n : UInt32) :
    (increased n).toNat = min (n.toNat + 1) (UInt32.size - 1) := by
  unfold increased
  split
  · rename_i h
    rw [h]
    rfl
  · rename_i h
    have hne : n.toNat ≠ 0xFFFFFFFF := fun heq => h (UInt32.toNat_inj.1 heq)
    have hlt := n.toNat_lt_size
    rw [UInt32.toNat_add]
    simp only [UInt32.size, UInt32.toNat_one] at hlt ⊢
    omega

theorem records_nil {threshold : UInt32} (h : threshold ≠ 0) (generation : Nat) :
    Records threshold [] { generation } where
  failures := rfl
  degraded := by
    have hpos : threshold.toNat ≠ 0 := fun heq => h (UInt32.toNat_inj.1 heq)
    simpa [failuresAtEnd] using hpos
  lastSuccess := rfl

theorem Records.of_same {threshold : UInt32} {xs : List Sample} {s t : Series}
    (h : s.Records threshold xs) (hfailures : t.failures = s.failures)
    (hdegraded : t.degraded = s.degraded) (hlast : t.lastSuccess = s.lastSuccess) :
    t.Records threshold xs :=
  ⟨hfailures ▸ h.failures, hdegraded ▸ h.degraded, hlast ▸ h.lastSuccess⟩

theorem Records.visited {threshold : UInt32} {xs : List Sample} {s : Series}
    (h : s.Records threshold xs) : s.visited.Records threshold xs := by
  unfold Series.visited
  split <;> exact h.of_same rfl rfl rfl

theorem Records.released {threshold : UInt32} {xs : List Sample} {s : Series}
    (h : s.Records threshold xs) (generation : Nat) :
    (s.released generation).Records threshold xs := by
  unfold Series.released
  split
  · exact h.of_same rfl rfl rfl
  · exact h

theorem Records.failureDegrades_iff {threshold : UInt32} {xs : List Sample} {s : Series}
    (h : s.Records threshold xs) :
    s.failureDegrades threshold = true ↔ failuresAtEnd xs + 1 = threshold.toNat := by
  have hlt := threshold.toNat_lt_size
  rw [failureDegrades, Bool.and_eq_true, Bool.not_eq_true', h.degraded, decide_eq_false_iff_not,
    decide_eq_true_iff, UInt32.le_iff_toNat_le, toNat_increased, h.failures]
  simp only [UInt32.size] at hlt ⊢
  omega

theorem Records.taking {threshold : UInt32} {xs : List Sample} {s : Series}
    (h : s.Records threshold xs) (hthreshold : threshold ≠ 0) (x : Sample) :
    (s.taking threshold x).Records threshold (xs ++ [x]) := by
  have hpos : threshold.toNat ≠ 0 := fun heq => hthreshold (UInt32.toNat_inj.1 heq)
  unfold Series.taking
  cases hx : x.isFailure with
  | true =>
      rw [if_pos rfl]
      constructor
      · rw [failuresAtEnd_concat, if_pos hx]
        change (increased s.failures).toNat = _
        rw [toNat_increased, h.failures]
        -- Both counts stop at the same value.
        omega
      · change (s.degraded || s.failureDegrades threshold) = _
        rw [failuresAtEnd_concat, if_pos hx, Bool.eq_iff_iff, Bool.or_eq_true,
          h.failureDegrades_iff, h.degraded, decide_eq_true_iff, decide_eq_true_iff]
        omega
      · rw [lastValued_concat, if_pos hx]
        exact h.lastSuccess
  | false =>
      rw [if_neg Bool.false_ne_true]
      constructor
      · rw [failuresAtEnd_concat, hx]
        rfl
      · rw [failuresAtEnd_concat, hx]
        change false = decide (threshold.toNat ≤ 0)
        simpa using hpos
      · rw [lastValued_concat, hx]
        rfl

theorem Records.changeOn {threshold : UInt32} {xs : List Sample} {s : Series}
    (h : s.Records threshold xs) (x : Sample) :
    s.changeOn threshold x = changeAfter threshold xs x := by
  unfold Series.changeOn changeAfter
  cases hx : x.isFailure with
  | true =>
      rw [if_pos rfl, if_pos rfl, failuresAtEnd_concat, if_pos hx, changeOnFailure]
      -- A count that reaches the threshold has not stopped before it.
      by_cases hdegrades : failuresAtEnd xs + 1 = threshold.toNat
      · have hcount : increased s.failures = threshold := by
          have hlt := threshold.toNat_lt_size
          rw [← UInt32.toNat_inj, toNat_increased, h.failures]
          simp only [UInt32.size] at hlt ⊢
          omega
        rw [if_pos (h.failureDegrades_iff.2 hdegrades), if_pos hdegrades, hcount]
      · rw [if_neg (mt h.failureDegrades_iff.1 hdegrades), if_neg hdegrades]
  | false =>
      rw [if_neg Bool.false_ne_true, if_neg Bool.false_ne_true, changeOnSuccess, h.degraded]
      simp only [decide_eq_true_eq]

end Series

namespace Registry

/-- Whether a registry has taken in some samples of a label since it last knew nothing of it. -/
structure Records (label : String) (xs : List Sample) (r : Registry) : Prop where
  accepts : ∀ x, x.label = label → (r.accepts x = true ↔ UpToDate xs x)
  latest : r.latest.get? label = lastValued (Sample.accepted xs)

/-- Whether nothing was ever recorded in a registry. -/
structure Untouched (r : Registry) : Prop where
  latest : r.latest = .empty
  newest : r.newest = .empty

theorem accepts_congr {r r' : Registry} {x : Sample}
    (h : r'.newest.get? x.label = r.newest.get? x.label) : r'.accepts x = r.accepts x := by
  rw [Registry.accepts, h, Registry.accepts]

theorem records_nil {r : Registry} {label : String} (hnewest : r.newest.get? label = none)
    (hlatest : r.latest.get? label = none) : r.Records label [] where
  accepts := by
    rintro x rfl
    rw [Registry.accepts, hnewest]
    exact iff_of_true rfl nofun
  latest := hlatest

theorem Records.of_same {r r' : Registry} {label : String} {xs : List Sample}
    (h : r.Records label xs) (hnewest : r'.newest.get? label = r.newest.get? label)
    (hlatest : r'.latest.get? label = r.latest.get? label) : r'.Records label xs where
  accepts := by
    rintro x rfl
    rw [accepts_congr hnewest]
    exact h.accepts x rfl
  latest := hlatest.trans h.latest

theorem Records.remove {r : Registry} {label other : String} {xs : List Sample}
    (h : r.Records label xs) (hne : other ≠ label) : (r.remove other).Records label xs :=
  h.of_same (LabelMap.get?_erase_of_ne hne) (LabelMap.get?_erase_of_ne hne)

theorem Records.taking_of_ne {r : Registry} {label : String} {xs : List Sample}
    (h : r.Records label xs) {x : Sample} (hne : x.label ≠ label) :
    (r.taking x).Records label xs := by
  unfold Registry.taking Registry.record
  split
  · refine h.of_same (LabelMap.get?_insert_of_ne hne) ?_
    simp only
    split
    · rfl
    · exact LabelMap.get?_insert_of_ne hne
  · exact h

theorem latest_record (r : Registry) (x : Sample) :
    (r.record x).latest.get? x.label = if x.isFailure then r.latest.get? x.label else some x := by
  unfold Registry.record
  simp only
  split
  · rfl
  · exact LabelMap.get?_insert_self _ _ _

/-- The registry accepts a sample just when it is up to date, and from then on a sample has to be no
older than this one as well. -/
theorem Records.taking {r : Registry} {xs : List Sample} {x : Sample}
    (h : r.Records x.label xs) : (r.taking x).Records x.label (xs ++ [x]) := by
  have happend (y : Sample) :
      UpToDate (xs ++ [x]) y ↔ UpToDate xs y ∧ x.timestamp ≤ y.timestamp := by
    simp [UpToDate, or_imp, forall_and]
  unfold Registry.taking
  by_cases hx : r.accepts x = true
  · have hdate := (h.accepts x rfl).1 hx
    rw [if_pos hx]
    constructor
    · intro y hy
      have hnewest : (r.record x).newest.get? y.label = some x.timestamp := by
        rw [hy]
        exact LabelMap.get?_insert_self _ _ _
      rw [Registry.accepts, hnewest, happend, decide_eq_true_iff]
      exact ⟨fun hle => ⟨fun z hz => UInt64.le_trans (hdate z hz) hle, hle⟩, fun hle => hle.2⟩
    · rw [latest_record, accepted_concat, if_pos hdate, lastValued_concat, h.latest]
  · have hdate := mt (h.accepts x rfl).2 hx
    rw [if_neg hx]
    constructor
    · intro y hy
      rw [h.accepts y hy, happend, iff_self_and]
      -- Some earlier sample is newer than the dropped one.
      intro hold
      by_cases hle : x.timestamp ≤ y.timestamp
      · exact hle
      · refine absurd (fun z hz => UInt64.le_trans (hold z hz) ?_) hdate
        exact UInt64.le_of_lt (UInt64.not_le.1 hle)
    · rw [h.latest, accepted_concat, if_neg hdate, List.append_nil]

end Registry

end MetricWatch
