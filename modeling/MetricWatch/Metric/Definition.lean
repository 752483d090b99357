import MetricWatch.Error
import MetricWatch.Metric.Window
import MetricWatch.Text.Blank

/-!
Metric definitions: a counter of the bridge, read at a path, shown under a label.
-/

namespace MetricWatch

/-- One polled series. None of its texts is blank. Whether the bridge knows the path is not settled
here: an unknown path shows up as failed samples. -/
structure Definition where
  name : String
  path : String
  label : String
  name_written : Text.isBlankText name = false
  path_written : Text.isBlankText path = false
  label_written : Text.isBlankText label = false
  deriving DecidableEq

namespace Definition

/-- The definition with the given texts. The first blank one is the reason to refuse it. -/
def make (name path label : String) : Except Error Definition :=
  if hn : Text.isBlankText name = true then .error (.invalidDefinition .blankName)
  else if hp : Text.isBlankText path = true then
    .error (.invalidDefinition (.blankPath name))
  else if hl : Text.isBlankText label = true then
    .error (.invalidDefinition (.blankLabel name))
  else
    .ok {
      name, path, label
      name_written := Bool.eq_false_iff.2 hn
      path_written := Bool.eq_false_iff.2 hp
      label_written := Bool.eq_false_iff.2 hl }

/-- The path of a figure over a window. -/
def windowPath (window : Window) (aggregate : Aggregate) : String :=
  window.segment ++ "/" ++ aggregate.segment

/-- The definition of a counter's figure over a window. -/
def windowed (name : String) (window : Window) (aggregate : Aggregate) (label : String) :
    Except Error Definition :=
  make name (windowPath window aggregate) label

/-- Making a definition from a definition's own texts gives it back. -/
@[simp] theorem make_self (d : Definition) : make d.name d.path d.label = .ok d := by
  simp [make, d.name_written, d.path_written, d.label_written]

end Definition

end MetricWatch
