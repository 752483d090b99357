import Mathlib.Data.List.Basic

/-!
A history cut at one of its entries. Two such cuts of one history are the same or one lies before the
other, and a history with one more entry is cut there or earlier.
-/

namespace MetricWatch

namespace History

variable {α : Type} {a b : α} {xs ys us vs : List α}

theorem cut_append (xs : List α) (a : α) (ys zs : List α) :
    xs ++ a :: ys ++ zs = xs ++ a :: (ys ++ zs) := by
  rw [List.append_assoc, List.cons_append]

theorem cut_cases (h : xs ++ a :: ys = us ++ b :: vs) :
    xs = us ∧ a = b ∧ ys = vs ∨
      (∃ middle, us = xs ++ a :: middle ∧ ys = middle ++ b :: vs) ∨
        ∃ middle, xs = us ++ b :: middle ∧ vs = middle ++ a :: ys := by
  rcases List.append_eq_append_iff.1 h with ⟨middle, rfl, hrest⟩ | ⟨middle, rfl, hrest⟩
  · cases middle with
    | nil =>
        obtain ⟨rfl, rfl⟩ := List.cons.inj hrest
        exact .inl ⟨(List.append_nil xs).symm, rfl, rfl⟩
    | cons c middle =>
        obtain ⟨rfl, rfl⟩ := List.cons.inj hrest
        exact .inr (.inl ⟨middle, rfl, rfl⟩)
  · cases middle with
    | nil =>
        obtain ⟨rfl, rfl⟩ := List.cons.inj hrest
        exact .inl ⟨List.append_nil us, rfl, rfl⟩
    | cons c middle =>
        obtain ⟨rfl, rfl⟩ := List.cons.inj hrest
        exact .inr (.inr ⟨middle, rfl, rfl⟩)

/-- The cut of a history with one more entry lies at this entry or before it. -/
theorem cut_concat_cases (h : xs ++ [a] = us ++ b :: vs) :
    xs = us ∧ a = b ∧ vs = [] ∨ ∃ since, xs = us ++ b :: since ∧ vs = since ++ [a] := by
  rcases cut_cases h with ⟨hxs, ha, hvs⟩ | ⟨middle, -, hnil⟩ | hearlier
  · exact .inl ⟨hxs, ha, hvs.symm⟩
  · cases middle <;> cases hnil
  · exact .inr hearlier

end History

end MetricWatch
