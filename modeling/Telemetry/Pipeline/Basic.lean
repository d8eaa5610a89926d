import Telemetry.Collector
import Telemetry.Exposition
import Telemetry.Pipeline.Transform

/-! Pipelines: a pass of the collector, the transforms, and the text of the result. -/

namespace Telemetry

/-- A pipeline in a world with states in `σ`. -/
structure Pipeline (σ : Type) where
  manager : DeviceManager σ
  collector : Collector
  topology : Topology
  /-- The transforms, in the order in which they run. -/
  transforms : List (Transform σ) := []

namespace Pipeline

variable {σ : Type}

/-- The metrics of a pass, given those of the collector. -/
def transformed (p : Pipeline σ) (metrics : MetricSet) : Action σ Report MetricSet := fun s =>
  match Transform.processAll p.topology p.transforms (metrics, s) with
  | (.ok (), (metrics, s)) => (.ok metrics, s)
  | (.error (name, r), (_, s)) => (.error (Transform.failure name r), s)

/-- Collects, transforms and writes once. -/
def renderOnce (p : Pipeline σ) : Action σ Report String := do
  let metrics ← Action.mapFault Report.ofDevice (p.collector.collect p.manager)
  let metrics ← p.transformed metrics
  pure (Exposition.render p.collector.counters metrics)

end Pipeline
end Telemetry
