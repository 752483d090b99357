import Mathlib.Data.List.Nodup
import MetricWatch.Proofs.Config.Expansion

/-!
The labels of panels. What stands behind the title tells the windows apart, whatever the title ends in,
so that a label has one title and one window, and panels share a label exactly when they share a title.
-/

namespace MetricWatch

namespace Panel

/-- What stands behind the title in the labels of a window. -/
def ending (window : Window) : List Char := " / ".toList ++ window.displayName.toList

/-- The title in front of a window's ending, if a text has that ending. -/
def titled? (text : String) (window : Window) : Option (String × Window) :=
  if ending window <:+ text.toList then
    some (String.ofList (text.toList.take (text.toList.length - (ending window).length)), window)
  else none

/-- The title and the window that a label was made of, if it is a panel's. -/
def parts? (text : String) : Option (String × Window) := Window.all.findSome? (titled? text)

theorem toList_label (title : String) (window : Window) :
    (label title window).toList = title.toList ++ ending window := by
  rw [label, String.toList_append, String.toList_append, List.append_assoc, ending]

theorem mem_all (window : Window) : window ∈ Window.all := by
  cases window <;> decide

/-- No ending ends in another one. -/
theorem ending_suffix_iff {window other : Window} :
    ending other <:+ ending window ↔ other = window := by
  cases window <;> cases other <;> decide

/-- A title that looks like a label of its own makes no difference. -/
theorem ending_suffix_label_iff {title : String} {window other : Window} :
    ending other <:+ (label title window).toList ↔ other = window := by
  have hown : ending window <:+ (label title window).toList := by
    rw [toList_label]
    exact List.suffix_append _ _
  constructor
  · intro hother
    rcases List.suffix_or_suffix_of_suffix hother hown with h | h
    · exact ending_suffix_iff.1 h
    · exact (ending_suffix_iff.1 h).symm
  · rintro rfl
    exact hown

theorem titled?_label (title : String) (window other : Window) :
    titled? (label title window) other = if other = window then some (title, window) else none := by
  rw [titled?]
  by_cases hother : other = window
  · rw [hother, if_pos (ending_suffix_label_iff.2 rfl), if_pos rfl, toList_label,
      List.length_append, Nat.add_sub_cancel, List.take_left, String.ofList_toList]
  · rw [if_neg (mt ending_suffix_label_iff.1 hother), if_neg hother]

theorem parts?_label (title : String) (window : Window) :
    parts? (label title window) = some (title, window) := by
  have htitled : titled? (label title window) =
      fun other => if other = window then some (title, window) else none :=
    funext (titled?_label title window)
  rw [parts?, htitled]
  cases window <;> rfl

theorem label_inj {title title' : String} {window window' : Window} :
    label title window = label title' window' ↔ title = title' ∧ window = window' := by
  constructor
  · intro h
    have hparts := congrArg parts? h
    rw [parts?_label, parts?_label] at hparts
    exact Prod.ext_iff.1 (Option.some.inj hparts)
  · rintro ⟨rfl, rfl⟩
    rfl

/-- The labels of the panels with a title, one for each window. -/
def labels (title : String) : List String := Window.all.map (label title)

theorem nodup_labels (title : String) : (labels title).Nodup := by
  apply List.Nodup.map
  · intro window other h
    exact (label_inj.1 h).2
  · decide

theorem disjoint_labels_iff {title title' : String} :
    (labels title).Disjoint (labels title') ↔ title ≠ title' := by
  constructor
  · rintro h rfl
    exact h (List.mem_map_of_mem (mem_all .lastMinute)) (List.mem_map_of_mem (mem_all .lastMinute))
  · intro hne text htext htext'
    obtain ⟨window, -, rfl⟩ := List.mem_map.1 htext
    obtain ⟨other, -, hsame⟩ := List.mem_map.1 htext'
    exact hne (label_inj.1 hsame).1.symm

theorem nodup_flatMap_labels_iff {titles : List String} :
    (titles.flatMap labels).Nodup ↔ titles.Nodup := by
  rw [List.nodup_flatMap]
  constructor
  · rintro ⟨-, hdisjoint⟩
    exact hdisjoint.imp disjoint_labels_iff.1
  · intro hdistinct
    exact ⟨fun title _ => nodup_labels title, hdistinct.imp disjoint_labels_iff.2⟩

theorem labels_of_texts (p : Panel) : p.texts.map (·.2.2) = labels p.title := List.map_map

theorem exists_mapM_definitions {ps : List Panel}
    (h : ∀ p ∈ ps, Text.isBlankText p.counter = false) :
    ∃ dss, ps.mapM definitions = .ok dss := by
  induction ps with
  | nil => exact ⟨[], rfl⟩
  | cons p ps ih =>
      obtain ⟨hfirst, hrest⟩ := List.forall_mem_cons.1 h
      obtain ⟨dss, hdss⟩ := ih hrest
      rw [List.mapM_cons, definitions_of_written hfirst, hdss]
      exact ⟨_, rfl⟩

theorem labels_of_mapM_definitions {ps : List Panel} {dss : List (List Definition)}
    (h : ps.mapM definitions = .ok dss) :
    dss.flatten.map (·.label) = (ps.map (·.title)).flatMap labels := by
  have htexts := congrArg (List.map (·.2.2)) (texts_of_mapM_definitions h)
  rw [List.map_map, List.map_flatMap] at htexts
  rw [List.flatMap_map]
  exact htexts.trans (congrArg (List.flatMap · ps) (funext labels_of_texts))

/-- Panels whose counters are written expand, and their definitions have distinct labels exactly when
the panels have distinct titles. Each label tells the title and the window that it was made of. -/
theorem labels_distinct_iff {ps : List Panel}
    (h : ∀ p ∈ ps, Text.isBlankText p.counter = false) :
    ∃ dss, ps.mapM definitions = .ok dss ∧
      ((dss.flatten.map (·.label)).Nodup ↔ (ps.map (·.title)).Nodup) ∧
      dss.flatten.map (fun d => parts? d.label) =
        ps.flatMap fun p => Window.all.map fun window => some (p.title, window) := by
  obtain ⟨dss, hdss⟩ := exists_mapM_definitions h
  have hlabels := labels_of_mapM_definitions hdss
  refine ⟨dss, hdss, ?_, ?_⟩
  · rw [hlabels, nodup_flatMap_labels_iff]
  · have hparts := congrArg (List.map parts?) hlabels
    rw [List.map_map, List.flatMap_map, List.map_flatMap] at hparts
    refine hparts.trans (congrArg (List.flatMap · ps) (funext fun p => ?_))
    rw [labels, List.map_map]
    exact List.map_congr_left fun window _ => parts?_label p.title window

/-- Titles that are empty, or that end like the label of another panel. -/
def oddlyTitled : List Panel :=
  [⟨"", "Req", .avg⟩, ⟨" / Last Day", "Req", .avg⟩, ⟨"Load / Last Day", "Load", .sum⟩,
    ⟨"Load", "Load", .sum⟩, ⟨"Last Day", "Load", .max⟩]

theorem labels_distinct_oddlyTitled :
    (∀ p ∈ oddlyTitled, Text.isBlankText p.counter = false) ∧
      ∃ dss, oddlyTitled.mapM definitions = .ok dss ∧ (dss.flatten.map (·.label)).Nodup := by
  have hwritten : ∀ p ∈ oddlyTitled, Text.isBlankText p.counter = false := by decide
  obtain ⟨dss, hdss, hdistinct, -⟩ := labels_distinct_iff hwritten
  exact ⟨hwritten, dss, hdss, hdistinct.2 (by decide)⟩

end Panel

end MetricWatch
