import MetricWatch.Proofs.Poll.Table

/-!
What has ended does not come back. Runs and registrations are numbered upwards, so that a run that was
stopped and a registration that was taken off stay ended through all that follows.
-/

namespace MetricWatch

namespace Service

/-- Whether a run was begun and is not the present one. -/
def Over (s : Service) (epoch : Nat) : Prop :=
  epoch ≤ s.poller.epoch ∧ s.poller.isCurrent epoch = false

/-- Whether a registration was made and is not the present one of its label. -/
def Gone (s : Service) (label : String) (generation : Nat) : Prop :=
  generation ≤ s.poller.ledger.generations ∧
    s.poller.ledger.generation? label ≠ some generation

variable {s s' : Service} {a : Action} {e : Effect}

/-- What an action can do to the present run. -/
inductive GateStep (p : Poller) : Action → Poller → Effect → Prop where
  | start {q : Poller} {e : Effect} (running : q.running = true)
      (epoch : q.epoch = p.epoch + 1) (started : e.started = some q.epoch) :
      GateStep p (.start true) q e
  | stop {q : Poller} {e : Effect} (running : q.running = false) (epoch : q.epoch = p.epoch)
      (started : e.started = none) : GateStep p .stop q e
  | same {a : Action} {q : Poller} {e : Effect} (running : q.running = p.running)
      (epoch : q.epoch = p.epoch) (started : e.started = none) : GateStep p a q e

theorem Step.gate (h : Step s a s' e) : GateStep s.poller a s'.poller e := by
  cases h with
  | start => exact .start rfl rfl rfl
  | stop => exact .stop rfl rfl rfl
  | _ => exact .same rfl rfl rfl

theorem Step.epoch_le (h : Step s a s' e) : s.poller.epoch ≤ s'.poller.epoch := by
  cases h.gate with
  | start _ epoch => omega
  | stop _ epoch => omega
  | same _ epoch => omega

theorem Step.over (h : Step s a s' e) {epoch : Nat} (hs : s.Over epoch) : s'.Over epoch := by
  obtain ⟨hle, hcurrent⟩ := hs
  refine ⟨Nat.le_trans hle h.epoch_le, ?_⟩
  unfold Poller.isCurrent at hcurrent ⊢
  cases h.gate with
  | start _ hepoch =>
      have hne : s'.poller.epoch ≠ epoch := by omega
      simp [hne]
  | stop running => simp [running]
  | same running hepoch => rw [running, hepoch, hcurrent]

theorem epoch_le_run (s : Service) (as : List Action) : s.poller.epoch ≤ (s.run as).poller.epoch :=
  run_induct (P := fun s' => s.poller.epoch ≤ s'.poller.epoch) (Nat.le_refl _)
    fun _ hs h => Nat.le_trans hs h.epoch_le

theorem over_run {epoch : Nat} (hs : s.Over epoch) (as : List Action) : (s.run as).Over epoch :=
  run_induct (P := fun s => s.Over epoch) hs fun _ hs h => h.over hs

theorem over_step_stop {epoch : Nat} (hle : epoch ≤ s.poller.epoch) :
    (s.step .stop).1.Over epoch := by
  refine ⟨Nat.le_trans hle (s.step_spec .stop).epoch_le, ?_⟩
  change s.poller.stop.isCurrent epoch = false
  unfold Poller.stop Poller.isCurrent
  split
  · rfl
  · rename_i h
    simp [Bool.eq_false_iff.2 h]

theorem stop_not_mem_of_isCurrent {as : List Action} {epoch : Nat}
    (hle : epoch ≤ s.poller.epoch) (hcurrent : (s.run as).poller.isCurrent epoch = true) :
    Action.stop ∉ as := by
  intro hmem
  obtain ⟨before, after, rfl⟩ := List.append_of_mem hmem
  rw [run_append, run_cons] at hcurrent
  have hover := over_step_stop (Nat.le_trans hle (epoch_le_run s before))
  have hend := (over_run hover after).2
  rw [hcurrent] at hend
  cases hend

theorem Step.generations_le (h : Step s a s' e) :
    s.poller.ledger.generations ≤ s'.poller.ledger.generations := by
  have htable := h.table
  generalize s'.poller = q at htable ⊢
  cases htable with
  | register d => exact Nat.le_succ _
  | unregister => exact Nat.le_refl _
  | same hsame => exact Nat.le_of_eq hsame.generations.symm

theorem Step.gone (h : Step s a s' e) {label : String} {generation : Nat}
    (hs : s.Gone label generation) : s'.Gone label generation := by
  obtain ⟨hle, hgen⟩ := hs
  refine ⟨Nat.le_trans hle h.generations_le, ?_⟩
  have htable := h.table
  generalize s'.poller = q at htable ⊢
  cases htable with
  | register d =>
      rw [Ledger.generation?_track]
      split
      · intro heq
        cases heq
        omega
      · exact hgen
  | unregister d =>
      rw [Ledger.generation?_forget]
      split
      · exact nofun
      · exact hgen
  | same hsame => rwa [hsame.generation?]

theorem generations_le_run (s : Service) (as : List Action) :
    s.poller.ledger.generations ≤ (s.run as).poller.ledger.generations :=
  run_induct (P := fun s' => s.poller.ledger.generations ≤ s'.poller.ledger.generations)
    (Nat.le_refl _) fun _ hs h => Nat.le_trans hs h.generations_le

theorem gone_run {label : String} {generation : Nat} (hs : s.Gone label generation)
    (as : List Action) : (s.run as).Gone label generation :=
  run_induct (P := fun s => s.Gone label generation) hs fun _ hs h => h.gone hs

theorem gone_step_unregister (label : String) {generation : Nat} (hs : s.poller.Coherent)
    (hle : generation ≤ s.poller.ledger.generations) :
    (s.step (.unregister label)).1.Gone label generation := by
  have hstep := s.step_spec (.unregister label)
  refine ⟨Nat.le_trans hle hstep.generations_le, ?_⟩
  generalize (s.step (.unregister label)).1 = s', (s.step (.unregister label)).2 = e at hstep ⊢
  cases hstep with
  | inert answer h =>
      rw [hs.generation?_eq_none (Poller.registered_eq_false_iff.1 h)]
      exact nofun
  | unregister d =>
      rw [Ledger.generation?_forget, if_pos rfl]
      exact nofun
  | close t mem closes => exact closes.elim

/-- A registration that is still the present one of its label has not been taken off. -/
theorem unregister_not_mem_of_generation? {as : List Action} {label : String} {generation : Nat}
    (hs : s.poller.Coherent) (hle : generation ≤ s.poller.ledger.generations)
    (hgen : (s.run as).poller.ledger.generation? label = some generation) :
    Action.unregister label ∉ as := by
  intro hmem
  obtain ⟨before, after, rfl⟩ := List.append_of_mem hmem
  rw [run_append, run_cons] at hgen
  have hgone := gone_step_unregister label (coherent_run hs before)
    (Nat.le_trans hle (generations_le_run s before))
  exact (gone_run hgone after).2 hgen

end Service

end MetricWatch
