import MetricWatch.Bridge.Response
import MetricWatch.Proofs.Json.Comparison
import MetricWatch.Proofs.Json.Texts
import MetricWatch.Proofs.Json.Values

/-!
Numbers in replies. A reply may hold a number or a text that names one; they are read in different ways, and
need not come to the same double.
-/

namespace MetricWatch.ReadResponse

open Json (Value Number Reads Entry Gathers)

/-- What comes of the text of a reply. -/
def outcome (s : String) : Except Json.Fault (Except Error Float) := (parse s).map toNumber

end MetricWatch.ReadResponse
