import MetricWatch.Proofs.Poll.Origin

/-!
Arrivals at a poller: samples, and ends of fetches. What a poller keeps falls apart by label, and an
arrival of a label reads and changes what is kept of this label alone. So it does not matter in which
order arrivals of different labels come in.
-/

namespace MetricWatch

/-- What the poller is given: a sample for a run and a registration, or notice that the fetch of a
registration has ended. -/
inductive Arrival where
  | sample (epoch generation : Nat) (x : Sample)
  | ended (label : String) (generation : Nat)

def Arrival.label : Arrival → String
  | sample _ _ x => x.label
  | ended label _ => label

namespace Poller

/-- The poller after an arrival, and what reaches its registry's subscribers. -/
def receive (p : Poller) : Arrival → List Delivery × Poller
  | .sample epoch generation x =>
    let (events, q) := p.deliver epoch generation x
    (events.flatMap q.registry.broadcast, q)
  | .ended label generation => ([], { p with ledger := p.ledger.finishFetch label generation })

def receiveAll (p : Poller) : List Arrival → List Delivery × Poller
  | [] => ([], p)
  | a :: as =>
    let (first, q) := p.receive a
    let (rest, q) := q.receiveAll as
    (first ++ rest, q)

end Poller

/-- All that a poller keeps of one label. -/
structure Row where
  series : Option Series
  latest : Option Sample
  newest : Option UInt64

namespace Row

def accepts (r : Row) (x : Sample) : Bool := r.newest.all (· ≤ x.timestamp)

def isCurrent (r : Row) (generation : Nat) : Bool := r.series.any (·.generation = generation)

/-- The row after a sample of its label. -/
def taking (r : Row) (threshold : UInt32) (x : Sample) : Row where
  series := r.series.map (Series.taking threshold x)
  latest := if r.accepts x && !x.isFailure then some x else r.latest
  newest := if r.accepts x then some x.timestamp else r.newest

/-- What is heard of a sample of the row's label. -/
def news (r : Row) (threshold : UInt32) (x : Sample) : List Event :=
  (if r.accepts x then [.sample x] else []) ++
    (((r.series.map (Series.changeOn threshold x)).getD .none).event? x).toList

/-- The row after an arrival of its label, and what is heard of it. Of the poller only the threshold
counts, and which run goes on. -/
def receive (going : Nat → Bool) (threshold : UInt32) (r : Row) :
    Arrival → List Event × Row
  | .sample epoch generation x =>
    if going epoch && r.isCurrent generation then (r.news threshold x, r.taking threshold x)
    else ([], r)
  | .ended _ generation => ([], { r with series := r.series.map (Series.released generation) })

def receiveAll (going : Nat → Bool) (threshold : UInt32) (r : Row) :
    List Arrival → List Event × Row
  | [] => ([], r)
  | a :: as =>
    let (first, r) := r.receive going threshold a
    let (rest, r) := r.receiveAll going threshold as
    (first ++ rest, r)

end Row

namespace Poller

/-- What a poller keeps of a label. -/
def row (p : Poller) (label : String) : Row where
  series := p.ledger.series? label
  latest := p.registry.latest.get? label
  newest := p.registry.newest.get? label

/-- A poller without what it keeps of single labels. -/
def frame (p : Poller) : Poller :=
  { p with
    ledger := { p.ledger with series := .empty }
    registry := { p.registry with latest := .empty, newest := .empty } }

theorem isCurrent_eq_of_frame {p q : Poller} (h : q.frame = p.frame) :
    q.isCurrent = p.isCurrent := by
  change q.frame.isCurrent = p.frame.isCurrent
  rw [h]

theorem threshold_eq_of_frame {p q : Poller} (h : q.frame = p.frame) :
    q.cadence.threshold = p.cadence.threshold := by
  change q.frame.cadence.threshold = p.frame.cadence.threshold
  rw [h]

theorem broadcast_eq_of_frame {p q : Poller} (h : q.frame = p.frame) :
    q.registry.broadcast = p.registry.broadcast := by
  change q.frame.registry.broadcast = p.frame.registry.broadcast
  rw [h]

theorem eq_of_frame {p q : Poller} (h : q.frame = p.frame)
    (hrow : ∀ label, q.row label = p.row label) : q = p := by
  have hseries : q.ledger.series = p.ledger.series :=
    LabelMap.ext_get? fun label => congrArg Row.series (hrow label)
  have hlatest : q.registry.latest = p.registry.latest :=
    LabelMap.ext_get? fun label => congrArg Row.latest (hrow label)
  have hnewest : q.registry.newest = p.registry.newest :=
    LabelMap.ext_get? fun label => congrArg Row.newest (hrow label)
  have hjoin (p : Poller) : p = { p.frame with
      ledger := { p.frame.ledger with series := p.ledger.series }
      registry := { p.frame.registry with
        latest := p.registry.latest, newest := p.registry.newest } } := rfl
  rw [hjoin q, h, hseries, hlatest, hnewest, ← hjoin p]

theorem accepts_row (p : Poller) (x : Sample) :
    p.registry.accepts x = (p.row x.label).accepts x := by
  unfold Registry.accepts Row.accepts row
  cases p.registry.newest.get? x.label <;> rfl

theorem isCurrent_row (p : Poller) (label : String) (generation : Nat) :
    p.ledger.isCurrent label generation = (p.row label).isCurrent generation := rfl

theorem news_eq (p : Poller) (x : Sample) :
    p.news x = (p.row x.label).news p.cadence.threshold x := by
  rw [news, Row.news, accepts_row, Ledger.record_eq]
  rfl

theorem row_taking (p : Poller) (x : Sample) :
    (p.taking x).row x.label = (p.row x.label).taking p.cadence.threshold x := by
  rw [Row.taking, ← accepts_row]
  simp [taking, row, Ledger.series?_record, Registry.latest_taking, Registry.newest_taking]

theorem row_taking_of_ne {p : Poller} {x : Sample} {label : String} (h : x.label ≠ label) :
    (p.taking x).row label = p.row label := by
  simp [taking, row, Ledger.series?_record, Registry.latest_taking, Registry.newest_taking, h]

theorem frame_taking (p : Poller) (x : Sample) : (p.taking x).frame = p.frame := by
  simp [taking, frame, Ledger.record_eq, Registry.subscribers_taking, Registry.issued_taking]

theorem receive_sample (p : Poller) (epoch generation : Nat) (x : Sample) :
    p.receive (.sample epoch generation x) =
      if p.isCurrent epoch && (p.row x.label).isCurrent generation then
        (((p.row x.label).news p.cadence.threshold x).flatMap p.registry.broadcast, p.taking x)
      else ([], p) := by
  rw [receive, deliver_eq, isCurrent_row]
  by_cases h : (p.isCurrent epoch && (p.row x.label).isCurrent generation) = true
  · rw [if_pos h, if_pos h, ← news_eq, ← broadcast_eq_of_frame (frame_taking p x)]
  · rw [if_neg h, if_neg h]
    rfl

theorem frame_receive (p : Poller) (a : Arrival) : (p.receive a).2.frame = p.frame := by
  cases a with
  | sample epoch generation x =>
      rw [receive_sample]
      split
      · exact frame_taking p x
      · rfl
  | ended label generation => simp [receive, frame, Ledger.finishFetch]

theorem row_receive_of_ne {p : Poller} {a : Arrival} {label : String} (h : a.label ≠ label) :
    (p.receive a).2.row label = p.row label := by
  cases a with
  | sample epoch generation x =>
      rw [receive_sample]
      split
      · exact row_taking_of_ne h
      · rfl
  | ended other generation =>
      have hne : other ≠ label := h
      simp [receive, row, Ledger.series?_finishFetch, hne]

/-- An arrival is dealt with by the row of its label. -/
theorem receive_row (p : Poller) (a : Arrival) :
    (p.receive a).2.row a.label =
        ((p.row a.label).receive p.isCurrent p.cadence.threshold a).2 ∧
      (p.receive a).1 =
        ((p.row a.label).receive p.isCurrent p.cadence.threshold a).1.flatMap
          p.registry.broadcast := by
  cases a with
  | sample epoch generation x =>
      rw [receive_sample, Row.receive, Arrival.label]
      split
      · exact ⟨row_taking p x, rfl⟩
      · exact ⟨rfl, rfl⟩
  | ended label generation =>
      simp [receive, row, Row.receive, Arrival.label, Ledger.series?_finishFetch]

theorem label?_of_mem_receive {p : Poller} {a : Arrival} {d : Delivery}
    (h : d ∈ (p.receive a).1) : d.event.label? = some a.label := by
  cases a with
  | sample epoch generation x =>
      rw [receive_sample] at h
      split at h
      · obtain ⟨event, hevent, hd⟩ := List.mem_flatMap.1 h
        obtain ⟨s, -, rfl⟩ := List.mem_map.1 hd
        rw [← news_eq] at hevent
        exact label?_of_mem_news hevent
      · cases h
  | ended => cases h

theorem frame_receiveAll (p : Poller) (as : List Arrival) :
    (p.receiveAll as).2.frame = p.frame := by
  induction as generalizing p with
  | nil => rfl
  | cons a as ih => exact (ih _).trans (p.frame_receive a)

/-- Of the arrivals, those of a label decide what becomes of its row and what is heard of it. -/
theorem receiveAll_row (p : Poller) (as : List Arrival) (label : String) :
    (p.receiveAll as).2.row label =
        ((p.row label).receiveAll p.isCurrent p.cadence.threshold
          (as.filter (·.label = label))).2 ∧
      (p.receiveAll as).1.filter (·.event.label? = some label) =
        ((p.row label).receiveAll p.isCurrent p.cadence.threshold
          (as.filter (·.label = label))).1.flatMap p.registry.broadcast := by
  induction as generalizing p with
  | nil => exact ⟨rfl, rfl⟩
  | cons a as ih =>
      have hframe := p.frame_receive a
      obtain ⟨hrow, hheard⟩ := ih (p.receive a).2
      rw [isCurrent_eq_of_frame hframe, threshold_eq_of_frame hframe] at hrow hheard
      rw [broadcast_eq_of_frame hframe] at hheard
      rw [receiveAll, List.filter_append, hheard]
      by_cases hlabel : a.label = label
      · subst hlabel
        obtain ⟨hfirst, hnews⟩ := p.receive_row a
        have hall : ∀ d ∈ (p.receive a).1, decide (d.event.label? = some a.label) = true :=
          fun d hd => decide_eq_true (label?_of_mem_receive hd)
        rw [hfirst] at hrow ⊢
        rw [List.filter_cons_of_pos (by simp), Row.receiveAll, List.filter_eq_self.2 hall, hnews,
          List.flatMap_append]
        exact ⟨hrow, rfl⟩
      · have hnone : ∀ d ∈ (p.receive a).1, ¬ decide (d.event.label? = some label) = true := by
          intro d hd
          rw [label?_of_mem_receive hd]
          simpa using hlabel
        rw [row_receive_of_ne hlabel] at hrow ⊢
        rw [List.filter_eq_nil_iff.2 hnone, List.filter_cons_of_neg (by simpa using hlabel)]
        exact ⟨hrow, rfl⟩

theorem filter_swap {a b : Arrival} (h : a.label ≠ b.label) (as bs : List Arrival)
    (label : String) :
    (as ++ a :: b :: bs).filter (·.label = label) =
      (as ++ b :: a :: bs).filter (·.label = label) := by
  by_cases ha : a.label = label
  · have hb : b.label ≠ label := fun hb => h (ha.trans hb.symm)
    simp [ha, hb]
  · simp [List.filter_cons, ha]

/-- In whatever order arrivals of different labels come in, as long as those of each label keep their
order, the poller ends up the same, so that it also accepts the same samples afterwards, and each
subscriber hears the same of each label. -/
theorem receiveAll_reordered (p : Poller) {as bs : List Arrival}
    (h : ∀ label, as.filter (·.label = label) = bs.filter (·.label = label)) :
    (p.receiveAll as).2 = (p.receiveAll bs).2 ∧
      ∀ s label,
        (p.receiveAll as).1.filter (fun d => d.subscription = s ∧ d.event.label? = some label) =
          (p.receiveAll bs).1.filter fun d => d.subscription = s ∧ d.event.label? = some label := by
  constructor
  · apply eq_of_frame
    · rw [frame_receiveAll, frame_receiveAll]
    · intro label
      rw [(p.receiveAll_row as label).1, (p.receiveAll_row bs label).1, h label]
  · intro s label
    have hlabel : (p.receiveAll as).1.filter (·.event.label? = some label) =
        (p.receiveAll bs).1.filter (·.event.label? = some label) := by
      rw [(p.receiveAll_row as label).2, (p.receiveAll_row bs label).2, h label]
    have hboth := congrArg (List.filter fun d => decide (d.subscription = s)) hlabel
    simpa [List.filter_filter] using hboth

end Poller

/-- What a task gives its poller when it is answered with a sample of its label. -/
def Task.arrivals (t : Task) (x : Sample) : List Arrival :=
  [.sample t.fetch.epoch t.fetch.generation x,
    .ended t.fetch.definition.label t.fetch.generation]

namespace Service

theorem reply_eq_receiveAll {s : Service} (hs : s.Numbered) {t : Task} (ht : t ∈ s.tasks)
    (hasked : t.asked = true) {x : Sample} (hlabel : x.label = t.fetch.definition.label) :
    (s.step (.reply t.number x)).1.poller = (s.poller.receiveAll (t.arrivals x)).2 ∧
      (s.step (.reply t.number x)).2.deliveries = (s.poller.receiveAll (t.arrivals x)).1 := by
  have htask := hs.task?_of_mem ht
  rw [hasked] at htask
  simp [step, reply, htask, accept, hlabel, Task.arrivals, Poller.receiveAll, Poller.receive,
    endTask, Poller.finish]

end Service

/-- A poller that polls two labels and has a subscriber. -/
def Poller.twoLabels : Poller :=
  ((Service.fresh .everySecond {}).run [.registry .subscribe, .register .requests,
    .register { Definition.requests with label := "L2", label_written := by decide },
    .start true]).poller

namespace Arrival

def firstFailure : Arrival := .sample 1 1 (.failed "L1" 5 "timeout")

def otherValue : Arrival := .sample 1 2 (.ok "L2" 7 1)

/-- A second failure, which comes out of order: it is not heard of, but degrades its label. -/
def lateFailure : List Arrival :=
  [.sample 1 1 (.failed "L1" 3 "refused"), .ended "L1" 1, .ended "L2" 2]

end Arrival

namespace Poller

open Arrival

theorem receiveAll_reordered_twoLabels :
    twoLabels.running = true ∧
      (∀ label, (firstFailure :: otherValue :: lateFailure).filter (·.label = label) =
        (otherValue :: firstFailure :: lateFailure).filter (·.label = label)) ∧
      (twoLabels.receiveAll (firstFailure :: otherValue :: lateFailure)).1.map (·.event) =
        [.sample (.failed "L1" 5 "timeout"), .sample (.ok "L2" 7 1),
          .degraded { label := "L1", failures := 2, lastError := some "refused", timestamp := 3 }] ∧
      (twoLabels.receiveAll (firstFailure :: otherValue :: lateFailure)).2 =
        (twoLabels.receiveAll (otherValue :: firstFailure :: lateFailure)).2 := by
  have hne : firstFailure.label ≠ otherValue.label := by decide
  have hreordered := filter_swap hne [] lateFailure
  exact ⟨rfl, hreordered, rfl, (receiveAll_reordered twoLabels hreordered).1⟩

end Poller

end MetricWatch
