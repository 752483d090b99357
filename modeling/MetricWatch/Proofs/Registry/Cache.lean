import Mathlib.Data.List.DropRight
import MetricWatch.Proofs.Poll.Samples
import MetricWatch.Proofs.Registry.Told

/-!
What is cached of a label, said of the samples that were offered for it since it was last removed. Other
labels, subscribers and receivers have no part in it.
-/

namespace MetricWatch

open Sample

namespace Sample

theorem pairwise_accepted (xs : List Sample) :
    (accepted xs).Pairwise (·.timestamp ≤ ·.timestamp) := by
  induction xs using List.reverseRecOn with
  | nil => exact List.Pairwise.nil
  | append_singleton xs x ih =>
      rw [accepted_concat, List.pairwise_append]
      refine ⟨ih, ?_, ?_⟩
      · split
        · exact List.pairwise_singleton _ _
        · exact List.Pairwise.nil
      · intro y hy z hz
        split at hz
        · rename_i hdate
          obtain rfl := List.mem_singleton.1 hz
          exact hdate y (mem_of_mem_accepted hy)
        · cases hz

theorem exists_getLast?_of_mem {xs : List Sample} (h : xs.Pairwise (·.timestamp ≤ ·.timestamp))
    {x : Sample} (hx : x ∈ xs) : ∃ y, xs.getLast? = some y ∧ x.timestamp ≤ y.timestamp := by
  rcases List.eq_nil_or_concat' xs with rfl | ⟨xs, y, rfl⟩
  · cases hx
  · refine ⟨y, List.getLast?_concat, ?_⟩
    rcases List.mem_append.1 hx with hx | hx
    · exact (List.pairwise_append.1 h).2.2 x hx y List.mem_cons_self
    · rw [List.mem_singleton.1 hx]
      exact UInt64.le_refl _

end Sample

namespace Hub

def Action.offers (label : String) : Action → Option Sample
  | .registry (.update x) => if x.label = label then some x else none
  | _ => none

def Moment.accepts (label : String) (m : Moment) : Option Sample :=
  if (m.before.step m.action).answer = .registry (.flag true) then m.action.offers label else none

/-- The samples that were offered for a label since it was last removed. -/
def offered (label : String) (as : List Action) : List Sample :=
  (as.rtakeWhile (!·.removes label)).filterMap (·.offers label)

/-- The samples that were accepted for a label since it was last removed. -/
def taken (label : String) (as : List Action) : List Sample :=
  ((moments {} as).rtakeWhile (!·.action.removes label)).filterMap (·.accepts label)

theorem offered_concat (label : String) (as : List Action) (a : Action) :
    offered label (as ++ [a]) =
      if a.removes label then [] else offered label as ++ (a.offers label).toList := by
  rw [offered, List.rtakeWhile_concat]
  cases a.removes label with
  | true => rfl
  | false =>
      rw [Bool.not_false, if_pos rfl, if_neg Bool.false_ne_true, List.filterMap_append, offered]
      congr 1

theorem taken_concat (label : String) (as : List Action) (a : Action) :
    taken label (as ++ [a]) =
      if a.removes label then []
      else taken label as ++ (Moment.accepts label ⟨run {} as, a⟩).toList := by
  rw [taken, moments_concat, List.rtakeWhile_concat]
  cases a.removes label with
  | true => rfl
  | false =>
      rw [Bool.not_false, if_pos rfl, if_neg Bool.false_ne_true, List.filterMap_append, taken]
      congr 1

theorem offers_eq_some_iff {label : String} {a : Action} {x : Sample} :
    a.offers label = some x ↔ a = .registry (.update x) ∧ x.label = label := by
  constructor
  · intro h
    cases a with
    | registry r =>
        cases r with
        | update y =>
            rw [Action.offers] at h
            split at h
            · rename_i hlabel
              obtain rfl := Option.some.inj h
              exact ⟨rfl, hlabel⟩
            · cases h
        | _ => cases h
    | _ => cases h
  · rintro ⟨rfl, hlabel⟩
    exact if_pos hlabel

theorem registry_update (h : Hub) (x : Sample) :
    (h.step (.registry (.update x))).hub.registry = h.registry.taking x := by
  rw [registry_step, Action.asks, Option.map_some, Option.getD_some, Registry.step_update,
    Registry.taking]
  split <;> rfl

/-- An action that neither offers a sample of a label nor removes the label leaves all that is known of
the label as it is. -/
theorem get?_step_of_other (h : Hub) {a : Action} {label : String}
    (hoffers : a.offers label = none) (hremoves : a.removes label = false) :
    (h.step a).hub.registry.latest.get? label = h.registry.latest.get? label ∧
      (h.step a).hub.registry.newest.get? label = h.registry.newest.get? label := by
  cases a with
  | registry r =>
      cases r with
      | update x =>
          have hne : x.label ≠ label := by
            intro hlabel
            rw [offers_eq_some_iff.2 ⟨rfl, hlabel⟩] at hoffers
            cases hoffers
          rw [registry_update, Registry.taking, Registry.record]
          split
          · refine ⟨?_, LabelMap.get?_insert_of_ne hne⟩
            simp only
            split
            · rfl
            · exact LabelMap.get?_insert_of_ne hne
          · exact ⟨rfl, rfl⟩
      | remove other =>
          have hne : other ≠ label := by
            rintro rfl
            rw [removes_iff.2 rfl] at hremoves
            cases hremoves
          exact ⟨LabelMap.get?_erase_of_ne hne, LabelMap.get?_erase_of_ne hne⟩
      | _ => exact ⟨rfl, rfl⟩
  | _ => exact ⟨rfl, rfl⟩

theorem records_step {h : Hub} {label : String} {xs : List Sample}
    (hrecords : h.registry.Records label xs) (a : Action) :
    (h.step a).hub.registry.Records label
      (if a.removes label then [] else xs ++ (a.offers label).toList) := by
  cases hremoves : a.removes label with
  | true =>
      obtain rfl := removes_iff.1 hremoves
      exact Registry.records_nil (LabelMap.get?_erase_self _ _) (LabelMap.get?_erase_self _ _)
  | false =>
      rw [if_neg Bool.false_ne_true]
      cases hoffers : a.offers label with
      | none =>
          obtain ⟨hlatest, hnewest⟩ := get?_step_of_other h hoffers hremoves
          rw [Option.toList_none, List.append_nil]
          exact hrecords.of_same hnewest hlatest
      | some x =>
          obtain ⟨rfl, rfl⟩ := offers_eq_some_iff.1 hoffers
          rw [registry_update]
          exact hrecords.taking

theorem accepts_eq {h : Hub} {label : String} {xs : List Sample}
    (hrecords : h.registry.Records label xs) (a : Action) :
    accepted xs ++ (Moment.accepts label ⟨h, a⟩).toList =
      accepted (xs ++ (a.offers label).toList) := by
  rw [Moment.accepts]
  cases hoffers : a.offers label with
  | none => simp
  | some x =>
      obtain ⟨rfl, hlabel⟩ := offers_eq_some_iff.1 hoffers
      rw [Option.toList_some, accepted_concat, answer_update]
      simp only [Answer.registry.injEq, Registry.Answer.flag.injEq, hrecords.accepts x hlabel]
      split <;> rfl

theorem records_run (label : String) (as : List Action) :
    (run {} as).registry.Records label (offered label as) ∧
      taken label as = accepted (offered label as) := by
  induction as using List.reverseRecOn with
  | nil => exact ⟨Registry.records_nil rfl rfl, rfl⟩
  | append_singleton as a ih =>
      obtain ⟨hrecords, htaken⟩ := ih
      rw [run_concat, offered_concat, taken_concat]
      refine ⟨records_step hrecords a, ?_⟩
      split
      · rfl
      · rw [htaken, accepts_eq hrecords]

theorem step_of_refused {h : Hub} {x : Sample} (hx : h.registry.accepts x = false) :
    (h.step (.registry (.update x))).hub = h ∧
      (h.step (.registry (.update x))).deliveries = [] := by
  rw [step, forward, Registry.step_update, hx]
  constructor
  · rw [post]
    simp
  · rfl

structure Keeps (as : List Action) (label : String) : Prop where
  answer : ∀ x, x.label = label →
    ((run {} as).step (.registry (.update x))).answer =
      .registry (.flag (decide (∀ y ∈ offered label as, y.timestamp ≤ x.timestamp)))
  refused : ∀ x, ((run {} as).step (.registry (.update x))).answer = .registry (.flag false) →
    ((run {} as).step (.registry (.update x))).hub = run {} as ∧
      ((run {} as).step (.registry (.update x))).deliveries = [] ∧
      (run {} as).calls (.registry (.update x)) = []
  latest : (run {} as).registry.latest.get? label = lastValued (taken label as)
  ascending : (taken label as).Pairwise (·.timestamp ≤ ·.timestamp)
  /-- The cached sample has a value and is no newer than the newest accepted one. -/
  valued : ∀ x, (run {} as).registry.latest.get? label = some x → x.isFailure = false ∧
    ∃ y, (taken label as).getLast? = some y ∧ x.timestamp ≤ y.timestamp
  untouched : ∀ a, a.offers label = none → a.removes label = false →
    ((run {} as).step a).hub.registry.latest.get? label = (run {} as).registry.latest.get? label ∧
      ((run {} as).step a).hub.registry.newest.get? label = (run {} as).registry.newest.get? label

/-- After every history, what was offered for a label since it was last removed decides which samples of
it are accepted and which one is cached. -/
theorem keeps_label (as : List Action) (label : String) : Keeps as label := by
  obtain ⟨hrecords, htaken⟩ := records_run label as
  have hlatest : (run {} as).registry.latest.get? label = lastValued (taken label as) := by
    rw [htaken]
    exact hrecords.latest
  have hascending : (taken label as).Pairwise (·.timestamp ≤ ·.timestamp) := by
    rw [htaken]
    exact pairwise_accepted _
  constructor
  · intro x hx
    have haccepts := hrecords.accepts x hx
    rw [answer_update, Bool.eq_iff_iff.2 (haccepts.trans decide_eq_true_iff.symm)]
    rfl
  · intro x hx
    have hrefused := accepts_of_answer hx
    exact ⟨(step_of_refused hrefused).1, (step_of_refused hrefused).2, calls_of_refused hrefused⟩
  · exact hlatest
  · exact hascending
  · intro x hx
    rw [hlatest] at hx
    obtain ⟨hmem, hvalued⟩ := of_lastValued_eq_some hx
    exact ⟨hvalued, exists_getLast?_of_mem hascending hmem⟩
  · intro a hoffers hremoves
    exact get?_step_of_other _ hoffers hremoves

/-- An equal timestamp is accepted and an older one is not, until the label is removed. -/
example : taken "L1" [.registry (.update (.ok "L1" 10 5)), .registry (.update (.failed "L1" 12 "")),
    .registry (.update (.ok "L1" 11 6)), .registry (.update (.ok "L1" 12 7))] =
      [.ok "L1" 10 5, .failed "L1" 12 "", .ok "L1" 12 7] ∧
    taken "L1" [.registry (.update (.ok "L1" 10 5)), .registry (.remove "L1"),
      .registry (.update (.ok "L1" 5 1))] = [.ok "L1" 5 1] := ⟨rfl, rfl⟩

end Hub

end MetricWatch
