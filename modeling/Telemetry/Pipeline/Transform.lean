import Telemetry.Action
import Telemetry.Metric
import Telemetry.Report
import Telemetry.Topology.Basic

/-! Transforms change the metrics of a pass before they are shown, one after the other. A transform
    that fails leaves the metrics as it has made them, and those after it are not run. -/

namespace Telemetry

/-- A transform in a world with states in `σ`. -/
structure Transform (σ : Type) where
  name : String
  process : Topology → Action (MetricSet × σ) Report Unit

namespace Transform

variable {σ : Type}

/-- Runs transforms one after the other; a failure is given with the name of the transform. -/
def processAll (t : Topology) : List (Transform σ) → Action (MetricSet × σ) (String × Report) Unit
  | [] => pure ()
  | x :: xs => do
    Action.mapFault (fun r => (x.name, r)) (x.process t)
    processAll t xs

/-- The report of a transform's failure. -/
def failure (name : String) (r : Report) : Report := r.wrap s!"Transform {name} failed"

/-- A transform that changes each metric by itself. -/
def ofMap (name : String) (f : Topology → Metric → Metric) : Transform σ where
  name := name
  process t := fun (metrics, s) => (.ok (), (metrics.map fun ms => ms.map (f t), s))

/-- A transform that fails and changes nothing. -/
def failing (name : String) (r : Report) : Transform σ where
  name := name
  process _ := fun s => (.error r, s)

end Transform
end Telemetry
