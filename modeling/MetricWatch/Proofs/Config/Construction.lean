import Mathlib.Data.List.Nodup
import MetricWatch.Dashboard
import MetricWatch.Proofs.Config.Expansion
import MetricWatch.Proofs.Poll.Poller
import MetricWatch.Proofs.Poll.Run

/-!
Validating a configuration and building from it agree. The labels are checked twice, once against all
labels before and once against the table that grows, and both checks stop at the same label.
-/

namespace MetricWatch

theorem repeatedLabel?_congr {seen seen' : List String} (h : ∀ label, label ∈ seen ↔ label ∈ seen')
    (labels : List String) : repeatedLabel? seen labels = repeatedLabel? seen' labels := by
  induction labels generalizing seen seen' with
  | nil => rfl
  | cons label labels ih =>
      have hcons (other : String) : other ∈ label :: seen ↔ other ∈ label :: seen' := by
        rw [List.mem_cons, List.mem_cons, h]
      rw [repeatedLabel?, repeatedLabel?, ih hcons]
      simp only [h]

theorem repeatedLabel?_eq_none_iff {seen labels : List String} :
    repeatedLabel? seen labels = none ↔ labels.Nodup ∧ ∀ label ∈ labels, label ∉ seen := by
  induction labels generalizing seen with
  | nil => simp [repeatedLabel?]
  | cons label labels ih =>
      rw [repeatedLabel?]
      split
      · rename_i hseen
        simp [hseen]
      · rename_i hseen
        rw [ih, List.nodup_cons, List.forall_mem_cons]
        constructor
        · rintro ⟨hnodup, hnew⟩
          refine ⟨⟨fun hmem => hnew label hmem List.mem_cons_self, hnodup⟩, hseen, ?_⟩
          exact fun other hmem hother => hnew other hmem (List.mem_cons_of_mem _ hother)
        · rintro ⟨⟨hlabel, hnodup⟩, -, hnew⟩
          refine ⟨hnodup, ?_⟩
          rintro other hmem hother
          rcases List.mem_cons.1 hother with rfl | hother
          · exact hlabel hmem
          · exact hnew other hmem hother

/-- The label that is found is the first one that stands among those before it. -/
theorem repeatedLabel?_append_cons {seen before : List String} {label : String}
    (hnodup : before.Nodup) (hnew : ∀ other ∈ before, other ∉ seen)
    (hrepeats : label ∈ before ∨ label ∈ seen) (after : List String) :
    repeatedLabel? seen (before ++ label :: after) = some label := by
  induction before generalizing seen with
  | nil =>
      rw [List.nil_append, repeatedLabel?, if_pos]
      exact hrepeats.resolve_left List.not_mem_nil
  | cons first before ih =>
      obtain ⟨hfirst, hnodup⟩ := List.nodup_cons.1 hnodup
      rw [List.cons_append, repeatedLabel?, if_neg (hnew first List.mem_cons_self)]
      apply ih hnodup
      · intro other hmem hother
        rcases List.mem_cons.1 hother with rfl | hother
        · exact hfirst hmem
        · exact hnew other (List.mem_cons_of_mem _ hmem) hother
      · rcases hrepeats with hmem | hmem
        · rcases List.mem_cons.1 hmem with rfl | hmem
          · exact .inr List.mem_cons_self
          · exact .inl hmem
        · exact .inr (List.mem_cons_of_mem _ hmem)

namespace Ledger

/-- The ledger after some labels were registered, one after the other. -/
def trackAll (l : Ledger) (labels : List String) : Ledger :=
  labels.foldl (fun l label => (l.track label).2) l

theorem ticks_trackAll (l : Ledger) (labels : List String) :
    (l.trackAll labels).ticks = l.ticks := by
  induction labels generalizing l with
  | nil => rfl
  | cons label labels ih => exact ih (l.track label).2

theorem series?_trackAll (l : Ledger) {labels : List String} (hlabels : labels.Nodup)
    (label : String) :
    (l.trackAll labels).series? label =
      if label ∈ labels then some { generation := l.generations + labels.idxOf label + 1 }
      else l.series? label := by
  induction labels generalizing l with
  | nil => rfl
  | cons first labels ih =>
      obtain ⟨hfirst, hlabels⟩ := List.nodup_cons.1 hlabels
      rw [show l.trackAll (first :: labels) = (l.track first).2.trackAll labels from rfl,
        ih _ hlabels, series?_track, generations_track]
      by_cases heq : first = label
      · subst heq
        rw [if_neg hfirst, if_pos rfl, if_pos List.mem_cons_self, List.idxOf_cons_self]
      · rw [if_neg heq, List.idxOf_cons_ne _ heq]
        simp only [List.mem_cons, Ne.symm heq, false_or]
        split
        · congr 2
          omega
        · rfl

end Ledger

theorem Cadence.make_of_ne_zero {interval : UInt64} {threshold : UInt32} (hi : interval ≠ 0)
    (ht : threshold ≠ 0) : make interval threshold = .ok ⟨interval, threshold, hi, ht⟩ := by
  rw [make, dif_neg hi, dif_neg ht]

namespace Poller

/-- The poller after some definitions were registered, none of them in vain. -/
def registerAll (p : Poller) (ds : List Definition) : Poller :=
  { p with
    definitions := p.definitions ++ ds
    ledger := p.ledger.trackAll (ds.map (·.label)) }

/-- Registering some definitions stops at the first label that is taken. -/
theorem foldlM_register (p : Poller) (ds : List Definition) :
    ds.foldlM register p =
      match repeatedLabel? (p.definitions.map (·.label)) (ds.map (·.label)) with
      | some label => .error (.duplicateLabel label)
      | none => .ok (p.registerAll ds) := by
  induction ds generalizing p with
  | nil =>
      rw [registerAll, List.append_nil]
      rfl
  | cons d ds ih =>
      rw [List.foldlM_cons, register, List.map_cons, repeatedLabel?]
      simp only [registered_iff]
      split
      · rfl
      · refine (ih _).trans ?_
        have hseen (label : String) :
            label ∈ (p.definitions ++ [d]).map (·.label) ↔
              label ∈ d.label :: p.definitions.map (·.label) := by
          simp [or_comm]
        rw [repeatedLabel?_congr hseen, registerAll, List.append_assoc]
        rfl

end Poller

namespace Config

/-- The last part of validation, which looks at the definitions. -/
def checkDefinitions (c : Config) : Except Error Unit := do checkLabels (← c.definitions)

theorem validate_eq (c : Config) :
    c.validate =
      match c.problem? with
      | some problem => .error (.config problem)
      | none => c.checkDefinitions := by
  rw [validate]
  rfl

theorem checkLabels_eq_ok_iff {ds : List Definition} :
    checkLabels ds = .ok () ↔ (ds.map (·.label)).Nodup := by
  have hiff : repeatedLabel? [] (ds.map (·.label)) = none ↔ (ds.map (·.label)).Nodup := by
    rw [repeatedLabel?_eq_none_iff]
    exact and_iff_left fun _ _ => List.not_mem_nil
  rw [← hiff, checkLabels]
  split
  · rename_i hsome
    simp [hsome]
  · rename_i hnone
    simp [hnone]

theorem of_ite_some_eq_none {p : Prop} [Decidable p] {problem : ConfigProblem}
    {rest : Option ConfigProblem} (h : (if p then some problem else rest) = none) :
    ¬ p ∧ rest = none := by
  split at h
  · cases h
  · exact ⟨‹¬ p›, h⟩

theorem of_problem?_eq_none {c : Config} (h : c.problem? = none) :
    c.tickInterval ≠ 0 ∧ c.failureThreshold ≠ 0 := by
  obtain ⟨-, h⟩ := of_ite_some_eq_none h
  obtain ⟨-, h⟩ := of_ite_some_eq_none h
  obtain ⟨-, h⟩ := of_ite_some_eq_none h
  obtain ⟨hinterval, h⟩ := of_ite_some_eq_none h
  obtain ⟨hthreshold, -⟩ := of_ite_some_eq_none h
  refine ⟨?_, hthreshold⟩
  intro hzero
  rw [hzero] at hinterval
  exact hinterval rfl

end Config

namespace Poller

/-- The poller of a configuration, as its definitions and their labels decide. -/
theorem ofConfig_eq {c : Config} {cadence : Cadence}
    (hcadence : Cadence.make c.tickInterval c.failureThreshold = .ok cadence) :
    ofConfig c =
      (do
        let ds ← c.definitions
        Config.checkLabels ds
        .ok (registerAll { cadence } ds)) := by
  rw [ofConfig, hcadence]
  cases c.definitions with
  | error e => rfl
  | ok ds =>
      refine (foldlM_register { cadence } ds).trans ?_
      change _ = Except.bind (Config.checkLabels ds) _
      rw [Config.checkLabels, List.map_nil]
      cases repeatedLabel? [] (ds.map (·.label)) with
      | none => rfl
      | some label => rfl

theorem ofConfig_eq_error_iff {c : Config} (hinterval : c.tickInterval ≠ 0)
    (hthreshold : c.failureThreshold ≠ 0) (e : Error) :
    ofConfig c = .error e ↔ c.checkDefinitions = .error e := by
  have herror (e' : Error) :
      (.error e' : Except Error Poller) = .error e ↔ (.error e' : Except Error Unit) = .error e := by
    rw [Except.error.injEq, Except.error.injEq]
  rw [ofConfig_eq (Cadence.make_of_ne_zero hinterval hthreshold), Config.checkDefinitions]
  cases c.definitions with
  | error e' => exact herror e'
  | ok ds =>
      change Except.bind (Config.checkLabels ds) _ = .error e ↔ Config.checkLabels ds = .error e
      cases Config.checkLabels ds with
      | error e' => exact herror e'
      | ok _ => exact ⟨nofun, nofun⟩

end Poller

namespace Config

theorem checkDefinitions_eq_ok_iff {c : Config} :
    c.checkDefinitions = .ok () ↔
      ∃ ds, c.definitions = .ok ds ∧ (ds.map (·.label)).Nodup := by
  rw [checkDefinitions]
  cases c.definitions with
  | error e => exact ⟨nofun, fun ⟨_, h, _⟩ => nomatch h⟩
  | ok ds =>
      refine checkLabels_eq_ok_iff.trans ⟨fun h => ⟨ds, rfl, h⟩, ?_⟩
      rintro ⟨_, h, hnodup⟩
      exact Except.ok.inj h ▸ hnodup

theorem exists_checkDefinitions_eq_error_iff {c : Config} :
    (∃ e, c.checkDefinitions = .error e) ↔
      (∃ e, c.definitions = .error e) ∨
        ∃ ds, c.definitions = .ok ds ∧ ¬ (ds.map (·.label)).Nodup := by
  have hfails : (∃ e, c.checkDefinitions = .error e) ↔ ¬ c.checkDefinitions = .ok () := by
    cases c.checkDefinitions <;> simp
  rw [hfails, checkDefinitions_eq_ok_iff]
  cases c.definitions <;> simp

theorem checkDefinitions_of_repeated {c : Config} {before after : List Definition}
    {d : Definition} (h : c.definitions = .ok (before ++ d :: after))
    (hnodup : (before.map (·.label)).Nodup) (hrepeats : d.label ∈ before.map (·.label)) :
    c.checkDefinitions = .error (.duplicateLabel d.label) := by
  have hfound : repeatedLabel? [] ((before ++ d :: after).map (·.label)) = some d.label := by
    rw [List.map_append, List.map_cons]
    exact repeatedLabel?_append_cons hnodup (fun _ _ => List.not_mem_nil) (.inl hrepeats) _
  rw [checkDefinitions, h]
  change checkLabels (before ++ d :: after) = _
  rw [checkLabels, hfound]

/-- What is built from a configuration: its definitions in their order and under their own labels,
each with a fresh series, and nothing that runs or is cached. -/
structure Builds (c : Config) (ds : List Definition) (p : Poller) : Prop where
  expanded : c.definitions = .ok ds
  texts : ds.map Definition.texts = c.texts
  length : ds.length = c.metrics.length + 5 * c.panels.length
  written : ∀ d ∈ ds, Text.isBlankText d.name = false ∧ Text.isBlankText d.path = false ∧
    Text.isBlankText d.label = false
  distinct : (ds.map (·.label)).Nodup
  poller : Poller.ofConfig c = .ok p
  dashboard : Dashboard.ofConfig c = .ok { config := c, bridge := .ofConfig c, poller := p }
  cadence : p.cadence.interval = c.tickInterval ∧ p.cadence.threshold = c.failureThreshold
  definitions : p.definitions = ds
  stopped : p.running = false ∧ p.loop = none
  uncached : p.registry = {}
  unticked : p.ledger.ticks = 0
  fresh : ∀ label, p.ledger.series? label =
    if label ∈ ds.map (·.label) then some { generation := (ds.map (·.label)).idxOf label + 1 }
    else none

theorem builds_of_validate {c : Config} (h : c.validate = .ok ()) : ∃ ds p, c.Builds ds p := by
  have hproblem : c.problem? = none := by
    cases hproblem : c.problem? with
    | none => rfl
    | some problem =>
        rw [validate_eq, hproblem] at h
        cases h
  obtain ⟨hinterval, hthreshold⟩ := of_problem?_eq_none hproblem
  have hcheck : c.checkDefinitions = .ok () := by
    rw [validate_eq, hproblem] at h
    exact h
  obtain ⟨ds, hds, hnodup⟩ := checkDefinitions_eq_ok_iff.1 hcheck
  have htexts := texts_of_definitions hds
  let cadence : Cadence := ⟨c.tickInterval, c.failureThreshold, hinterval, hthreshold⟩
  let p : Poller := { cadence }
  have hpoller : Poller.ofConfig c = .ok (p.registerAll ds) := by
    rw [Poller.ofConfig_eq (Cadence.make_of_ne_zero hinterval hthreshold), hds]
    change Except.bind (checkLabels ds) _ = _
    rw [checkLabels_eq_ok_iff.2 hnodup]
    rfl
  refine ⟨ds, p.registerAll ds, ?_⟩
  constructor
  case expanded => exact hds
  case texts => exact htexts
  case length => rw [← length_texts, ← htexts, List.length_map]
  case written => exact fun d _ => ⟨d.name_written, d.path_written, d.label_written⟩
  case distinct => exact hnodup
  case poller => exact hpoller
  case dashboard =>
    rw [Dashboard.ofConfig, h, hpoller]
    rfl
  case cadence => exact ⟨rfl, rfl⟩
  case definitions => rfl
  case stopped => exact ⟨rfl, rfl⟩
  case uncached => rfl
  case unticked => exact Ledger.ticks_trackAll _ _
  case fresh =>
    intro label
    refine (Ledger.series?_trackAll {} hnodup label).trans ?_
    rw [show ({} : Ledger).generations = 0 from rfl, Nat.zero_add,
      show ({} : Ledger).series? label = none from LabelMap.get?_empty label]

/-- Whatever validation accepts can be built. With a cadence that can be used, building fails exactly if
a definition cannot be made or a label stands twice, and then with the error that validation has for it:
the first label that repeats an earlier one. -/
theorem validate_agrees (c : Config) :
    (c.validate = .ok () → ∃ ds p, c.Builds ds p) ∧
    (c.tickInterval ≠ 0 → c.failureThreshold ≠ 0 →
      ((∃ e, Poller.ofConfig c = .error e) ↔
        (∃ e, c.definitions = .error e) ∨
          ∃ ds, c.definitions = .ok ds ∧ ¬ (ds.map (·.label)).Nodup) ∧
      (∀ e, Poller.ofConfig c = .error e ↔ c.checkDefinitions = .error e) ∧
      (c.problem? = none → c.validate = c.checkDefinitions) ∧
      ∀ before d after, c.definitions = .ok (before ++ d :: after) →
        (before.map (·.label)).Nodup → d.label ∈ before.map (·.label) →
        Poller.ofConfig c = .error (.duplicateLabel d.label)) := by
  refine ⟨builds_of_validate, ?_⟩
  intro hinterval hthreshold
  have hfails := Poller.ofConfig_eq_error_iff hinterval hthreshold
  refine ⟨?_, hfails, ?_, ?_⟩
  · simp only [hfails, exists_checkDefinitions_eq_error_iff]
  · intro hproblem
    rw [validate_eq, hproblem]
  · intro before d after hds hnodup hrepeats
    exact (hfails _).2 (checkDefinitions_of_repeated hds hnodup hrepeats)

/-- A configuration of one metric, under a label of its own choice, and one panel. -/
def labelled (label : String) (h : Text.isBlankText label = false) : Config where
  endpoint := "http://h/jolokia"
  metrics := [{ Definition.requests with label := label, label_written := h }]
  panels := [⟨"All", "Req", .sum⟩]

/-- A panel's label may repeat the one that a metric was given. -/
theorem validate_agrees_panelLabel :
    (∃ ds p, (labelled "Req" (by decide)).Builds ds p ∧ ds.length = 6) ∧
      Poller.ofConfig (labelled "All / Last Hour" (by decide)) =
        .error (.duplicateLabel "All / Last Hour") := by
  constructor
  · have hproblem : (labelled "Req" (by decide)).problem? = none := by decide +kernel
    have hvalid : (labelled "Req" (by decide)).validate = .ok () := by
      rw [validate_eq, hproblem]
      exact checkDefinitions_eq_ok_iff.2 ⟨_, rfl, by decide⟩
    obtain ⟨ds, p, hbuilds⟩ := (validate_agrees (labelled "Req" (by decide))).1 hvalid
    exact ⟨ds, p, hbuilds, hbuilds.length⟩
  · refine ((validate_agrees (labelled "All / Last Hour" (by decide))).2 (by decide)
      (by decide)).2.2.2 [_, _] _ [_, _, _] rfl ?_ ?_
    · decide
    · decide

end Config

end MetricWatch
