import Mathlib.Data.List.Nodup
import MetricWatch.Proofs.Poll.Run

/-!
The table of definitions and the ledger go together: no label is registered twice, the ledger knows
exactly the registered labels, and no registration is numbered beyond those there have been.
-/

namespace MetricWatch

namespace Poller

/-- The table of definitions and the ledger go together. -/
structure Coherent (p : Poller) : Prop where
  distinct : (p.definitions.map (·.label)).Nodup
  tracked : ∀ label,
    (p.ledger.generation? label).isSome = true ↔ label ∈ p.definitions.map (·.label)
  bounded : ∀ label generation,
    p.ledger.generation? label = some generation → generation ≤ p.ledger.generations

theorem Coherent.generation?_of_mem {p : Poller} (h : p.Coherent) {d : Definition}
    (hd : d ∈ p.definitions) : ∃ generation, p.ledger.generation? d.label = some generation :=
  Option.isSome_iff_exists.1 ((h.tracked d.label).2 (List.mem_map_of_mem hd))

theorem Coherent.generation?_eq_none {p : Poller} (h : p.Coherent) {label : String}
    (hlabel : label ∉ p.definitions.map (·.label)) : p.ledger.generation? label = none := by
  rw [← Option.not_isSome_iff_eq_none, h.tracked]
  exact hlabel

theorem labels_eraseP (ds : List Definition) (label : String) :
    (ds.eraseP (·.label = label)).map (·.label) = (ds.map (·.label)).erase label := by
  rw [List.erase_eq_eraseP, List.eraseP_map]
  congr 2
  funext d
  exact decide_eq_decide.2 eq_comm

/-- Whether two pollers have the same definitions under the same registrations. -/
structure SameTable (p q : Poller) : Prop where
  definitions : q.definitions = p.definitions
  generation? : ∀ label, q.ledger.generation? label = p.ledger.generation? label
  generations : q.ledger.generations = p.ledger.generations

theorem SameTable.of_eq {p q : Poller} (hds : q.definitions = p.definitions)
    (hledger : q.ledger = p.ledger) : SameTable p q :=
  ⟨hds, fun _ => by rw [hledger], by rw [hledger]⟩

theorem Coherent.of_same {p q : Poller} (h : p.Coherent) (hsame : SameTable p q) :
    q.Coherent where
  distinct := hsame.definitions ▸ h.distinct
  tracked label := by rw [hsame.generation?, hsame.definitions, h.tracked]
  bounded label generation := by
    rw [hsame.generation?, hsame.generations]
    exact h.bounded label generation

theorem Coherent.register {p : Poller} (h : p.Coherent) {d : Definition}
    (hd : d.label ∉ p.definitions.map (·.label)) :
    Coherent { p with
      definitions := p.definitions ++ [d], ledger := (p.ledger.track d.label).2 } where
  distinct := by
    rw [List.map_append, List.nodup_append]
    refine ⟨h.distinct, List.nodup_singleton _, ?_⟩
    rintro label hlabel _ hsame rfl
    obtain rfl := List.mem_singleton.1 hsame
    exact hd hlabel
  tracked label := by
    rw [Ledger.generation?_track, List.map_append, List.mem_append, ← h.tracked]
    by_cases hlabel : d.label = label
    · simp [hlabel]
    · simp [hlabel, Ne.symm hlabel]
  bounded label generation := by
    rw [Ledger.generation?_track, Ledger.generations_track]
    split
    · rintro ⟨⟩
      exact Nat.le_refl _
    · intro hgen
      exact Nat.le_succ_of_le (h.bounded label generation hgen)

theorem Coherent.unregister {p : Poller} (h : p.Coherent) (label : String) (r : Registry) :
    Coherent { p with
      definitions := p.definitions.eraseP (·.label = label)
      ledger := p.ledger.forget label
      registry := r } where
  distinct := by
    rw [labels_eraseP]
    exact h.distinct.erase _
  tracked other := by
    rw [Ledger.generation?_forget, labels_eraseP, h.distinct.mem_erase_iff, ← h.tracked]
    by_cases hlabel : label = other
    · simp [hlabel]
    · simp [hlabel, Ne.symm hlabel]
  bounded other generation := by
    rw [Ledger.generation?_forget]
    split
    · intro hgen
      cases hgen
    · exact h.bounded other generation

theorem coherent_fresh (c : Cadence) (r : Registry) : (Service.fresh c r).poller.Coherent where
  distinct := List.nodup_nil
  tracked label := by simp [Service.fresh, Ledger.generation?, Ledger.series?]
  bounded label generation h := by
    simp [Service.fresh, Ledger.generation?, Ledger.series?] at h

end Poller

namespace Service

/-- What an action can do to the table of definitions. -/
inductive TableStep (p : Poller) : Action → Poller → Prop where
  | register (d : Definition) (new : d.label ∉ p.definitions.map (·.label)) :
      TableStep p (.register d)
        { p with
          definitions := p.definitions ++ [d], ledger := (p.ledger.track d.label).2 }
  | unregister (d : Definition) (known : d ∈ p.definitions) :
      TableStep p (.unregister d.label)
        { p with
          definitions := p.definitions.eraseP (·.label = d.label)
          ledger := p.ledger.forget d.label
          registry := p.registry.remove d.label }
  | same {a : Action} {q : Poller} (h : Poller.SameTable p q) : TableStep p a q

theorem Step.table {s s' : Service} {a : Action} {e : Effect} (h : Step s a s' e) :
    TableStep s.poller a s'.poller := by
  cases h with
  | inert => exact .same (.of_eq rfl rfl)
  | register d new => exact .register d new
  | unregister d known => exact .unregister d known
  | start => exact .same (.of_eq rfl rfl)
  | stop => exact .same (.of_eq rfl rfl)
  | tick epoch current issue =>
      obtain rfl := congrArg Prod.snd issue
      exact .same ⟨rfl, Poller.generation?_issue _ _ _, Poller.generations_issue _ _ _⟩
  | ask => exact .same (.of_eq rfl rfl)
  | close t =>
      refine .same ⟨rfl, fun label => ?_, ?_⟩
      · exact Ledger.generation?_finishFetch _ _ _ _
      · exact Ledger.generations_finishFetch _ _ _
  | deliver t x =>
      refine .same ⟨rfl, fun label => ?_, ?_⟩
      · exact (Ledger.generation?_finishFetch _ _ _ _).trans (Ledger.generation?_record _ _ _ _)
      · exact (Ledger.generations_finishFetch _ _ _).trans (Ledger.generations_record _ _ _)
  | registry => exact .same (.of_eq rfl rfl)

theorem Step.coherent {s s' : Service} {a : Action} {e : Effect} (h : Step s a s' e)
    (hs : s.poller.Coherent) : s'.poller.Coherent := by
  have htable := h.table
  generalize s'.poller = q at htable ⊢
  cases htable with
  | register d new => exact hs.register new
  | unregister d => exact hs.unregister d.label _
  | same hsame => exact hs.of_same hsame

theorem coherent_run {s : Service} (hs : s.poller.Coherent) (as : List Action) :
    (s.run as).poller.Coherent :=
  run_induct (P := fun s => s.poller.Coherent) hs fun _ hs h => h.coherent hs

end Service

end MetricWatch
