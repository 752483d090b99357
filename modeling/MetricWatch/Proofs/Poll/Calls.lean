import Mathlib.Data.List.Induction
import MetricWatch.Proofs.History
import MetricWatch.Proofs.Poll.Ledger

/-!
Sequences of calls to a ledger, in any order, about any labels and with any generations. A call about one
label leaves what is known of the others alone, and about an unknown label only registering it does
anything.
-/

namespace MetricWatch

namespace Ledger

/-- A call to a ledger. -/
inductive Call where
  | track (label : String)
  | forget (label : String)
  | beginTick
  | beginFetch (label : String)
  | finishFetch (label : String) (generation : Nat)
  | recordSuccess (label : String) (timestamp : UInt64)
  | recordFailure (label : String) (threshold : UInt32)
  deriving DecidableEq

/-- What a ledger answers. -/
inductive Answer where
  | done
  /-- The generation of a new registration, or the number of a tick. -/
  | number (n : Nat)
  | fetch (generation : Option Nat)
  | change (c : Change)
  deriving DecidableEq

/-- What comes of a call. -/
def call (l : Ledger) : Call → Answer × Ledger
  | .track label => (.number (l.track label).1, (l.track label).2)
  | .forget label => (.done, l.forget label)
  | .beginTick => (.number l.beginTick.ticks, l.beginTick)
  | .beginFetch label => (.fetch (l.beginFetch label).1, (l.beginFetch label).2)
  | .finishFetch label generation => (.done, l.finishFetch label generation)
  | .recordSuccess label timestamp =>
    (.change (l.recordSuccess label timestamp).1, (l.recordSuccess label timestamp).2)
  | .recordFailure label threshold =>
    (.change (l.recordFailure label threshold).1, (l.recordFailure label threshold).2)

/-- The ledger after some calls. -/
def run (l : Ledger) (calls : List Call) : Ledger := calls.foldl (fun l c => (l.call c).2) l

/-- The label that a call is about. -/
@[simp] def Call.label? : Call → Option String
  | .track label => some label
  | .forget label => some label
  | .beginTick => none
  | .beginFetch label => some label
  | .finishFetch label _ => some label
  | .recordSuccess label _ => some label
  | .recordFailure label _ => some label

/-- What a call makes of the series of its label, after so many registrations. -/
@[simp] def Call.effect (generations : Nat) (s : Option Series) : Call → Option Series
  | .track _ => some { generation := generations + 1 }
  | .forget _ => none
  | .beginTick => s
  | .beginFetch _ => s.map Series.visited
  | .finishFetch _ generation => s.map (Series.released generation)
  | .recordSuccess _ timestamp => s.map (·.succeed timestamp)
  | .recordFailure _ threshold => s.map (·.fail threshold)

@[simp] def Call.tracks (label : String) : Call → Bool
  | .track other => other = label
  | _ => false

@[simp] def Call.forgets (label : String) : Call → Bool
  | .forget other => other = label
  | _ => false

/-- Whether a label was registered and has not been forgotten since. -/
def Known (calls : List Call) (label : String) : Prop :=
  ∃ before since, calls = before ++ .track label :: since ∧ .forget label ∉ since

theorem run_concat (l : Ledger) (calls : List Call) (c : Call) :
    l.run (calls ++ [c]) = ((l.run calls).call c).2 := by
  rw [run, List.foldl_append]
  rfl

theorem Call.tracks_iff {label : String} {c : Call} : c.tracks label = true ↔ c = .track label := by
  cases c <;> simp

theorem Call.forgets_iff {label : String} {c : Call} : c.forgets label = true ↔ c = .forget label := by
  cases c <;> simp

theorem Call.tracks_of_other {label : String} {c : Call} (h : c.label? ≠ some label) :
    c.tracks label = false := by
  rw [Bool.eq_false_iff, ne_eq, tracks_iff]
  rintro rfl
  exact h rfl

theorem alter_of_series?_eq_none {l : Ledger} {label : String} (h : l.series? label = none)
    (f : Series → Series) : l.alter label f = l := by
  rw [alter, h]

theorem forget_of_series?_eq_none {l : Ledger} {label : String} (h : l.series? label = none) :
    l.forget label = l := by
  have herase : l.series.erase label = l.series := by
    apply LabelMap.ext_get?
    intro other
    by_cases hother : label = other
    · subst hother
      rw [LabelMap.get?_erase_self]
      exact h.symm
    · exact LabelMap.get?_erase_of_ne hother
  rw [forget, herase]

theorem series?_call (l : Ledger) (c : Call) (label : String) :
    (l.call c).2.series? label =
      if c.label? = some label then c.effect l.generations (l.series? label)
      else l.series? label := by
  cases c with
  | beginTick => rfl
  | track other =>
      rw [call, series?_track]
      simp
  | forget other =>
      rw [call, series?_forget]
      simp
  | beginFetch other =>
      rw [call, beginFetch_eq, series?_alter]
      simp
  | finishFetch other generation =>
      rw [call, series?_finishFetch]
      simp
  | recordSuccess other timestamp =>
      rw [call, recordSuccess, series?_alter]
      simp
  | recordFailure other threshold =>
      rw [call, recordFailure, series?_alter]
      simp

/-- What a label's series keeps, through the calls about this label and through all others, it has after
any calls. -/
theorem forall_series_run {P : List Call → Series → Prop} {label : String}
    (own : ∀ calls c, c.label? = some label → (∀ s ∈ (run {} calls).series? label, P calls s) →
      ∀ s ∈ c.effect (run {} calls).generations ((run {} calls).series? label), P (calls ++ [c]) s)
    (foreign : ∀ calls c, c.label? ≠ some label → ∀ s, P calls s → P (calls ++ [c]) s)
    (calls : List Call) : ∀ s ∈ (run {} calls).series? label, P calls s := by
  induction calls using List.reverseRecOn with
  | nil => exact nofun
  | append_singleton calls c ih =>
      rw [run_concat, series?_call]
      split
      · rename_i hlabel
        exact own calls c hlabel ih
      · rename_i hlabel
        exact fun s hs => foreign calls c hlabel s (ih s hs)

/-- A call about an unknown label changes nothing unless it registers the label. -/
theorem call_of_unknown {l : Ledger} {label : String} (hnone : l.series? label = none) {c : Call}
    (hlabel : c.label? = some label) (htracks : c ≠ .track label) : (l.call c).2 = l := by
  cases c with
  | beginTick => cases hlabel
  | track other =>
      obtain rfl := Option.some.inj hlabel
      exact absurd rfl htracks
  | forget other =>
      obtain rfl := Option.some.inj hlabel
      exact forget_of_series?_eq_none hnone
  | beginFetch other =>
      obtain rfl := Option.some.inj hlabel
      rw [call, beginFetch_eq, alter_of_series?_eq_none hnone]
  | finishFetch other _ | recordSuccess other _ | recordFailure other _ =>
      obtain rfl := Option.some.inj hlabel
      exact alter_of_series?_eq_none hnone _

/-- Only registering a label makes it known, and only forgetting it makes it unknown. -/
theorem isSome_series?_call (l : Ledger) (c : Call) (label : String) :
    ((l.call c).2.series? label).isSome =
      (c.tracks label || (l.series? label).isSome && !c.forgets label) := by
  rw [series?_call]
  cases c with
  | beginTick => simp
  | track other | forget other | beginFetch other | finishFetch other _ | recordSuccess other _
  | recordFailure other _ =>
      by_cases hother : other = label <;>
        simp [hother]

theorem known_concat {calls : List Call} {c : Call} {label : String} :
    Known (calls ++ [c]) label ↔
      c.tracks label = true ∨ Known calls label ∧ c.forgets label = false := by
  constructor
  · rintro ⟨before, since, hcut, hforget⟩
    rcases History.cut_concat_cases hcut with ⟨-, hc, -⟩ | ⟨since, hcalls, rfl⟩
    · exact .inl (Call.tracks_iff.2 hc)
    · rw [List.mem_append, not_or, List.mem_singleton] at hforget
      refine .inr ⟨⟨before, since, hcalls, hforget.1⟩, ?_⟩
      rw [Bool.eq_false_iff]
      exact fun h => hforget.2 (Call.forgets_iff.1 h).symm
  · rintro (h | ⟨⟨before, since, rfl, hforget⟩, h⟩)
    · rw [Call.tracks_iff.1 h]
      exact ⟨calls, [], rfl, List.not_mem_nil⟩
    · refine ⟨before, since ++ [c], History.cut_append _ _ _ _, ?_⟩
      rw [List.mem_append, not_or, List.mem_singleton]
      refine ⟨hforget, ?_⟩
      rintro rfl
      exact absurd h (by simp)

theorem isSome_series?_run (calls : List Call) (label : String) :
    ((run {} calls).series? label).isSome = true ↔ Known calls label := by
  induction calls using List.reverseRecOn with
  | nil =>
      refine iff_of_false Bool.false_ne_true ?_
      rintro ⟨before, since, heq, -⟩
      simp at heq
  | append_singleton calls c ih =>
      rw [run_concat, isSome_series?_call, known_concat, ← ih]
      simp

end Ledger

end MetricWatch
