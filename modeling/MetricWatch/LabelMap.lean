/-!
Finite maps from labels, kept in increasing label order. Two such maps with the same look-ups are
equal, so a statement about a whole table can be proved one label at a time.
-/

universe u

namespace MetricWatch

/-- A map from labels: its entries ascend by label, so each label occurs once. -/
structure LabelMap (α : Type u) where
  entries : List (String × α) := []
  ascending : entries.Pairwise (fun a b => a.1 < b.1) := by exact List.Pairwise.nil

namespace LabelMap

variable {α : Type u}

instance : Inhabited (LabelMap α) := ⟨{}⟩

instance [DecidableEq α] : DecidableEq (LabelMap α) := fun m n =>
  decidable_of_iff (m.entries = n.entries)
    ⟨fun h => by cases m; cases n; cases h; rfl, fun h => h ▸ rfl⟩

/-- The map without entries. -/
def empty : LabelMap α := {}

/-- The value found first under a label. -/
def lookup (label : String) : List (String × α) → Option α
  | [] => none
  | (k, v) :: rest => if k = label then some v else lookup label rest

/-- Puts an entry in its place, over an entry of the same label. -/
def insertEntry (label : String) (value : α) : List (String × α) → List (String × α)
  | [] => [(label, value)]
  | (k, v) :: rest =>
    if label < k then (label, value) :: (k, v) :: rest
    else if k = label then (label, value) :: rest
    else (k, v) :: insertEntry label value rest

theorem mem_insertEntry {label : String} {value : α} {l : List (String × α)} {e : String × α}
    (h : e ∈ insertEntry label value l) : e.1 = label ∨ e ∈ l := by
  induction l with
  | nil => simp_all [insertEntry]
  | cons a rest ih =>
    rw [insertEntry] at h
    split at h
    · rcases List.mem_cons.1 h with rfl | h
      · exact .inl rfl
      · exact .inr h
    · split at h
      · rcases List.mem_cons.1 h with rfl | h
        · exact .inl rfl
        · exact .inr (List.mem_cons_of_mem _ h)
      · rcases List.mem_cons.1 h with rfl | h
        · exact .inr List.mem_cons_self
        · exact (ih h).imp_right (List.mem_cons_of_mem _)

theorem insertEntry_ascending (label : String) (value : α) {l : List (String × α)}
    (h : l.Pairwise fun a b => a.1 < b.1) :
    (insertEntry label value l).Pairwise fun a b => a.1 < b.1 := by
  induction l with
  | nil => simp [insertEntry]
  | cons a rest ih =>
    obtain ⟨hle, hrest⟩ := List.pairwise_cons.1 h
    rw [insertEntry]
    split
    · rename_i hlt
      refine List.pairwise_cons.2 ⟨fun b hb => ?_, h⟩
      rcases List.mem_cons.1 hb with rfl | hb
      · exact hlt
      · exact String.lt_trans hlt (hle b hb)
    · rename_i hnot
      split
      · rename_i heq
        exact List.pairwise_cons.2 ⟨fun b hb => heq ▸ hle b hb, hrest⟩
      · rename_i hne
        have hgt : a.1 < label :=
          Decidable.byContradiction fun hc => hne (String.le_antisymm hnot hc)
        refine List.pairwise_cons.2 ⟨fun b hb => ?_, ih hrest⟩
        rcases mem_insertEntry hb with hb | hb
        · exact hb ▸ hgt
        · exact hle b hb

/-- The value under a label, if it has one. -/
def get? (m : LabelMap α) (label : String) : Option α := lookup label m.entries

/-- The map with a label's value set. -/
def insert (m : LabelMap α) (label : String) (value : α) : LabelMap α :=
  ⟨insertEntry label value m.entries, insertEntry_ascending label value m.ascending⟩

/-- The map without a label. -/
def erase (m : LabelMap α) (label : String) : LabelMap α :=
  ⟨m.entries.filter fun e => e.1 ≠ label, m.ascending.filter _⟩

/-- The labels in increasing order. -/
def labels (m : LabelMap α) : List String := m.entries.map (·.1)

theorem lookup_eq_none_of_forall_lt {label : String} {l : List (String × α)}
    (h : ∀ e ∈ l, label < e.1) : lookup label l = none := by
  induction l with
  | nil => rfl
  | cons a rest ih =>
    have ha := h a List.mem_cons_self
    rw [lookup, if_neg (fun he => String.lt_irrefl _ (he ▸ ha)),
      ih fun e he => h e (List.mem_cons_of_mem _ he)]

theorem lookup_insertEntry (label other : String) (value : α) (l : List (String × α)) :
    lookup other (insertEntry label value l) =
      if label = other then some value else lookup other l := by
  induction l with
  | nil => simp [insertEntry, lookup]
  | cons a rest ih =>
    rw [insertEntry]
    split
    · simp [lookup]
    · split
      · rename_i heq
        rw [lookup, lookup, heq]
        split <;> rfl
      · rename_i hne
        rw [lookup, lookup, ih]
        by_cases h : a.1 = other
        · rw [if_pos h, if_pos h, if_neg (fun hl => hne (h.trans hl.symm))]
        · rw [if_neg h, if_neg h]

theorem lookup_filter (label other : String) (l : List (String × α)) :
    lookup other (l.filter fun e => e.1 ≠ label) =
      if label = other then none else lookup other l := by
  induction l with
  | nil => simp [lookup]
  | cons a rest ih =>
    by_cases ha : a.1 = label
    · rw [List.filter_cons_of_neg (by simpa using ha), ih, lookup, ha]
      split <;> rfl
    · rw [List.filter_cons_of_pos (by simpa using ha), lookup, lookup, ih]
      by_cases h : a.1 = other
      · rw [if_pos h, if_pos h, if_neg (fun hl => ha (h.trans hl.symm))]
      · rw [if_neg h, if_neg h]

@[simp] theorem get?_empty (label : String) : (empty : LabelMap α).get? label = none := rfl

theorem get?_insert (m : LabelMap α) (label other : String) (value : α) :
    (m.insert label value).get? other = if label = other then some value else m.get? other :=
  lookup_insertEntry label other value m.entries

theorem get?_erase (m : LabelMap α) (label other : String) :
    (m.erase label).get? other = if label = other then none else m.get? other :=
  lookup_filter label other m.entries

@[simp] theorem get?_insert_self (m : LabelMap α) (label : String) (value : α) :
    (m.insert label value).get? label = some value := by
  simp [get?_insert]

@[simp] theorem get?_erase_self (m : LabelMap α) (label : String) :
    (m.erase label).get? label = none := by
  simp [get?_erase]

theorem get?_insert_of_ne {m : LabelMap α} {label other : String} {value : α}
    (h : label ≠ other) : (m.insert label value).get? other = m.get? other := by
  simp [get?_insert, h]

theorem get?_erase_of_ne {m : LabelMap α} {label other : String} (h : label ≠ other) :
    (m.erase label).get? other = m.get? other := by
  simp [get?_erase, h]

theorem ext_lookup {l l' : List (String × α)} (h : l.Pairwise fun a b => a.1 < b.1)
    (h' : l'.Pairwise fun a b => a.1 < b.1) (heq : ∀ k, lookup k l = lookup k l') : l = l' := by
  induction l generalizing l' with
  | nil =>
    cases l' with
    | nil => rfl
    | cons a rest =>
      have := heq a.1
      simp [lookup] at this
  | cons a rest ih =>
    obtain ⟨hle, hrest⟩ := List.pairwise_cons.1 h
    cases l' with
    | nil =>
      have := heq a.1
      simp [lookup] at this
    | cons b rest' =>
      obtain ⟨hle', hrest'⟩ := List.pairwise_cons.1 h'
      have hkey : a.1 = b.1 := by
        have ha := heq a.1
        have hb := heq b.1
        rw [lookup, if_pos rfl] at ha
        rw [lookup, lookup, if_pos rfl] at hb
        refine Decidable.byContradiction fun hne => ?_
        by_cases hlt : a.1 < b.1
        · rw [lookup_eq_none_of_forall_lt] at ha
          · simp at ha
          · intro e he
            rcases List.mem_cons.1 he with rfl | he
            · exact hlt
            · exact String.lt_trans hlt (hle' e he)
        · have hgt : b.1 < a.1 :=
            Decidable.byContradiction fun hc => hne (String.le_antisymm hc hlt)
          rw [if_neg hne, lookup_eq_none_of_forall_lt] at hb
          · simp at hb
          · exact fun e he => String.lt_trans hgt (hle e he)
      have hval : a = b := by
        have ha := heq a.1
        rw [lookup, if_pos rfl, lookup, if_pos hkey.symm] at ha
        exact Prod.ext hkey (Option.some.inj ha)
      subst hval
      congr 1
      refine ih hrest hrest' fun k => ?_
      by_cases hk : a.1 = k
      · rw [lookup_eq_none_of_forall_lt (hk ▸ hle), lookup_eq_none_of_forall_lt (hk ▸ hle')]
      · have := heq k
        rwa [lookup, lookup, if_neg hk, if_neg hk] at this

/-- Maps that agree on every label are equal. -/
theorem ext_get? {m n : LabelMap α} (h : ∀ label, m.get? label = n.get? label) : m = n := by
  have := ext_lookup m.ascending n.ascending h
  cases m
  cases n
  cases this
  rfl

theorem mem_labels {m : LabelMap α} {label : String} :
    label ∈ m.labels ↔ (m.get? label).isSome = true := by
  unfold labels get?
  generalize m.entries = l
  induction l with
  | nil => simp [lookup]
  | cons a rest ih =>
    rw [lookup]
    split
    · rename_i h
      simp [h]
    · rename_i h
      simp only [List.map_cons, List.mem_cons, ih]
      exact ⟨fun hm => hm.resolve_left fun he => h he.symm, .inr⟩

/-- Removing what was just inserted under a new label gives the map back. -/
theorem erase_insert_of_get?_eq_none {m : LabelMap α} {label : String} {value : α}
    (h : m.get? label = none) : (m.insert label value).erase label = m := by
  refine ext_get? fun k => ?_
  by_cases hk : label = k
  · subst hk
    rw [get?_erase_self, h]
  · rw [get?_erase_of_ne hk, get?_insert_of_ne hk]

end LabelMap

end MetricWatch
