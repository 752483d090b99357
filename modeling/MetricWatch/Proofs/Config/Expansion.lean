import Mathlib.Data.List.Basic
import MetricWatch.Config.Basic

/-!
The definitions that a configuration lists. A panel stands for one definition over each window, unless
its counter is blank, and then it stands for none.
-/

namespace MetricWatch

theorem Text.isBlankText_append (s t : String) :
    isBlankText (s ++ t) = (isBlankText s && isBlankText t) := by
  rw [isBlankText, String.toList_append, List.all_append, isBlankText, isBlankText]

namespace Definition

/-- What a definition is made of. -/
def texts (d : Definition) : String × String × String := (d.name, d.path, d.label)

theorem make_of_written {name path label : String} (hn : Text.isBlankText name = false)
    (hp : Text.isBlankText path = false) (hl : Text.isBlankText label = false) :
    make name path label = .ok ⟨name, path, label, hn, hp, hl⟩ := by
  simp [make, hn, hp, hl]

theorem make_of_blankName {name : String} (h : Text.isBlankText name = true)
    (path label : String) :
    make name path label = .error (.invalidDefinition .blankName) := dif_pos h

theorem windowPath_written (window : Window) (aggregate : Aggregate) :
    Text.isBlankText (windowPath window aggregate) = false := by
  cases window <;> cases aggregate <;> decide

end Definition

namespace Panel

theorem label_written (title : String) (window : Window) :
    Text.isBlankText (label title window) = false := by
  have hname : Text.isBlankText window.displayName = false := by
    cases window <;> decide
  rw [label, Text.isBlankText_append, hname, Bool.and_false]

/-- What the definitions of a panel are made of, one for each window. -/
def texts (p : Panel) : List (String × String × String) :=
  Window.all.map fun window =>
    (p.counter, Definition.windowPath window p.aggregate, label p.title window)

theorem definitions_of_blank {p : Panel} (h : Text.isBlankText p.counter = true) :
    p.definitions = .error (.invalidDefinition .blankName) := by
  have hwindowed (window : Window) : Definition.windowed p.counter window p.aggregate
      (label p.title window) = .error (.invalidDefinition .blankName) :=
    Definition.make_of_blankName h _ _
  rw [definitions, Window.all, List.mapM_cons, hwindowed]
  rfl

theorem definitions_of_written {p : Panel} (h : Text.isBlankText p.counter = false) :
    p.definitions = .ok (Window.all.map fun window => {
      name := p.counter
      path := Definition.windowPath window p.aggregate
      label := label p.title window
      name_written := h
      path_written := Definition.windowPath_written window p.aggregate
      label_written := label_written p.title window }) := by
  have hwindowed (window : Window) := Definition.make_of_written h
    (Definition.windowPath_written window p.aggregate) (label_written p.title window)
  simp only [definitions, Definition.windowed, hwindowed]
  exact List.mapM_pure

theorem texts_of_definitions {p : Panel} {ds : List Definition} (h : p.definitions = .ok ds) :
    ds.map Definition.texts = p.texts := by
  cases hcounter : Text.isBlankText p.counter with
  | true =>
      rw [definitions_of_blank hcounter] at h
      cases h
  | false =>
      rw [definitions_of_written hcounter] at h
      obtain rfl := Except.ok.inj h
      exact List.map_map

theorem texts_of_mapM_definitions {ps : List Panel} {dss : List (List Definition)}
    (h : ps.mapM definitions = .ok dss) :
    dss.flatten.map Definition.texts = ps.flatMap texts := by
  induction ps generalizing dss with
  | nil =>
      obtain rfl := Except.ok.inj h
      rfl
  | cons p ps ih =>
      rw [List.mapM_cons] at h
      cases hfirst : p.definitions with
      | error e =>
          rw [hfirst] at h
          cases h
      | ok ds =>
          cases hrest : ps.mapM definitions with
          | error e =>
              rw [hfirst, hrest] at h
              cases h
          | ok rest =>
              rw [hfirst, hrest] at h
              obtain rfl := Except.ok.inj h
              rw [List.flatten_cons, List.map_append, texts_of_definitions hfirst, ih hrest,
                List.flatMap_cons]

end Panel

namespace Config

/-- What the definitions of a configuration are made of: its metrics, and then those of each panel. -/
def texts (c : Config) : List (String × String × String) :=
  c.metrics.map Definition.texts ++ c.panels.flatMap Panel.texts

theorem length_texts (c : Config) : c.texts.length = c.metrics.length + 5 * c.panels.length := by
  have hpanels (ps : List Panel) : (ps.flatMap Panel.texts).length = 5 * ps.length := by
    induction ps with
    | nil => rfl
    | cons p ps ih =>
        rw [List.flatMap_cons, List.length_append, ih, List.length_cons,
          show p.texts.length = 5 from rfl]
        omega
  rw [texts, List.length_append, List.length_map, hpanels]

theorem texts_of_definitions {c : Config} {ds : List Definition} (h : c.definitions = .ok ds) :
    ds.map Definition.texts = c.texts := by
  unfold definitions at h
  cases hpanels : c.panels.mapM Panel.definitions with
  | error e =>
      rw [hpanels] at h
      cases h
  | ok dss =>
      rw [hpanels] at h
      obtain rfl := Except.ok.inj h
      rw [List.map_append, Panel.texts_of_mapM_definitions hpanels, texts]

end Config

end MetricWatch
