import Lightpath.Service.Spectrum
import Lightpath.Port.Rate

/-!
What a lifecycle run is told: the node, the names of its services, the spectrum and the rates.
-/

namespace Lightpath

/-- The parameters of a run. Without rates each port is run at the rates that it can carry. -/
structure RunParameters where
  node : String
  service : String := "oroadm-lifecycle"
  spectrum : Spectrum := .standard
  rates : List SignalRate := []
  settleMs : Nat := 0
deriving DecidableEq, Repr

end Lightpath
