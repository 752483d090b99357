import Mathlib.Data.List.Basic
import MetricWatch.Poll.Poller
import MetricWatch.Proofs.Poll.Ledger

/-!
A tick and a delivery in closed form. While the labels of the definitions are distinct, a tick visits
the series of each definition once, and what it issues can be read off the ledger before the tick.
-/

namespace MetricWatch

namespace Poller

theorem registered_iff {p : Poller} {label : String} :
    p.registered label = true ↔ label ∈ p.definitions.map (·.label) := by
  simp [registered]

theorem registered_eq_false_iff {p : Poller} {label : String} :
    p.registered label = false ↔ label ∉ p.definitions.map (·.label) := by
  rw [← Bool.not_eq_true, registered_iff]

theorem isCurrent_iff {p : Poller} {epoch : Nat} :
    p.isCurrent epoch = true ↔ p.running = true ∧ p.epoch = epoch := by
  simp [isCurrent]

/-- The fetch that a tick issues for a definition, unless one is outstanding. -/
def due? (epoch : Nat) (l : Ledger) (d : Definition) : Option Fetch :=
  (l.series? d.label).bind fun s =>
    if s.inFlight then none else some ⟨epoch, s.generation, d⟩

theorem due?_eq_some_iff {epoch : Nat} {l : Ledger} {d : Definition} {f : Fetch} :
    due? epoch l d = some f ↔
      ∃ s, l.series? d.label = some s ∧ s.inFlight = false ∧
        f = ⟨epoch, s.generation, d⟩ := by
  rw [due?, Option.bind_eq_some_iff]
  refine exists_congr fun s => and_congr_right fun _ => ?_
  by_cases h : s.inFlight = true <;> simp [h, eq_comm]

theorem issue_cons (epoch : Nat) (d : Definition) (ds : List Definition) (l : Ledger) :
    issue epoch (d :: ds) l =
      ((due? epoch l d).toList ++ (issue epoch ds (l.alter d.label Series.visited)).1,
        (issue epoch ds (l.alter d.label Series.visited)).2) := by
  rw [issue, Ledger.beginFetch_eq, due?]
  cases l.series? d.label with
  | none => rfl
  | some s =>
      rw [Option.bind_some, Option.bind_some]
      cases s.inFlight <;> rfl

theorem issue_fetches {epoch : Nat} {ds : List Definition} (l : Ledger)
    (hds : (ds.map (·.label)).Nodup) :
    (issue epoch ds l).1 = ds.filterMap (due? epoch l) := by
  induction ds generalizing l with
  | nil => rfl
  | cons d ds ih =>
      obtain ⟨hd, hrest⟩ := List.nodup_cons.1 hds
      rw [issue_cons, ih _ hrest]
      have hsame : ∀ e ∈ ds, due? epoch (l.alter d.label Series.visited) e = due? epoch l e := by
        intro e he
        have hne : d.label ≠ e.label := fun h => hd (List.mem_map.2 ⟨e, he, h.symm⟩)
        rw [due?, due?, Ledger.series?_alter, if_neg hne]
      rw [List.filterMap_congr hsame]
      cases h : due? epoch l d <;> simp [h]

theorem series?_issue {epoch : Nat} {ds : List Definition} (l : Ledger) (label : String)
    (hds : (ds.map (·.label)).Nodup) :
    (issue epoch ds l).2.series? label =
      if label ∈ ds.map (·.label) then (l.series? label).map Series.visited
      else l.series? label := by
  induction ds generalizing l with
  | nil => rfl
  | cons d ds ih =>
      obtain ⟨hd, hrest⟩ := List.nodup_cons.1 hds
      rw [issue_cons, ih _ hrest, Ledger.series?_alter, List.map_cons]
      by_cases h : d.label = label
      · subst h
        simp [hd]
      · simp [h, Ne.symm h]

@[simp] theorem generation?_issue (epoch : Nat) (ds : List Definition) (l : Ledger)
    (label : String) : (issue epoch ds l).2.generation? label = l.generation? label := by
  induction ds generalizing l with
  | nil => rfl
  | cons d ds ih =>
      rw [issue_cons, ih, Ledger.generation?_alter _ _ _ _ Series.visited_generation]

@[simp] theorem generations_issue (epoch : Nat) (ds : List Definition) (l : Ledger) :
    (issue epoch ds l).2.generations = l.generations := by
  induction ds generalizing l with
  | nil => rfl
  | cons d ds ih => rw [issue_cons, ih, Ledger.generations_alter]

theorem of_mem_issue {epoch : Nat} {ds : List Definition} {l : Ledger} {f : Fetch}
    (h : f ∈ (issue epoch ds l).1) :
    f.epoch = epoch ∧ f.definition ∈ ds ∧
      l.generation? f.definition.label = some f.generation := by
  induction ds generalizing l with
  | nil => simp [issue] at h
  | cons d ds ih =>
      rw [issue_cons, List.mem_append, Option.mem_toList, due?_eq_some_iff] at h
      rcases h with ⟨s, hs, -, rfl⟩ | h
      · refine ⟨rfl, List.mem_cons_self, ?_⟩
        simp [Ledger.generation?, hs]
      · obtain ⟨hepoch, hmem, hgen⟩ := ih h
        rw [Ledger.generation?_alter _ _ _ _ Series.visited_generation] at hgen
        exact ⟨hepoch, List.mem_cons_of_mem _ hmem, hgen⟩

end Poller

namespace Registry

/-- The registry after a sample, which it drops unless it accepts it. -/
def taking (r : Registry) (x : Sample) : Registry :=
  if r.accepts x then r.record x else r

variable (r : Registry) (x : Sample) (label : String)

theorem latest_taking :
    (r.taking x).latest.get? label =
      if x.label = label ∧ r.accepts x = true ∧ x.isFailure = false then some x
      else r.latest.get? label := by
  unfold taking record
  cases r.accepts x <;> cases x.isFailure <;> simp [LabelMap.get?_insert]

theorem newest_taking :
    (r.taking x).newest.get? label =
      if x.label = label ∧ r.accepts x = true then some x.timestamp
      else r.newest.get? label := by
  unfold taking record
  cases r.accepts x <;> simp [LabelMap.get?_insert]

theorem subscribers_taking : (r.taking x).subscribers = r.subscribers := by
  unfold taking
  split <;> rfl

theorem issued_taking : (r.taking x).issued = r.issued := by
  unfold taking
  split <;> rfl

end Registry

namespace Poller

/-- The poller after a sample that it takes in. -/
def taking (p : Poller) (x : Sample) : Poller :=
  { p with
    ledger := (p.ledger.record p.cadence.threshold x).2
    registry := p.registry.taking x }

/-- What subscribers hear of a sample that is taken in. -/
def news (p : Poller) (x : Sample) : List Event :=
  (if p.registry.accepts x then [.sample x] else []) ++
    ((p.ledger.record p.cadence.threshold x).1.event? x).toList

theorem deliver_eq (p : Poller) (epoch generation : Nat) (x : Sample) :
    p.deliver epoch generation x =
      if p.isCurrent epoch && p.ledger.isCurrent x.label generation then (p.news x, p.taking x)
      else ([], p) := by
  unfold deliver
  split
  · unfold news taking Registry.taking Registry.update?
    cases p.registry.accepts x <;> rfl
  · rfl

end Poller

end MetricWatch
