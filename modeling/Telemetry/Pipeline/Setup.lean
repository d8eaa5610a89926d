import Telemetry.Catalog.Error
import Telemetry.Collector
import Telemetry.Topology.Build

/-! Setting up a collector: a session with the device manager, then the topology, the catalog and the
    watch. Whatever fails after the session was opened, the session is closed again. -/

namespace Telemetry

/-- Why there is no collector. -/
inductive SetupError where
  | session (e : DeviceError)
  | topology (e : TopologyError)
  | catalog (e : CatalogError)
  | collector (e : TopologyError)
  deriving DecidableEq, Repr

/-- What a collector is set up from. -/
structure SetupOptions where
  rules : SelectionRules := .flex
  /-- Whether a placeholder may stand for a device that cannot be queried. -/
  permitPlaceholders : Bool := false
  collector : CollectorOptions := {}

/-- A collector with the topology that it was made for. -/
structure Setup where
  collector : Collector
  topology : Topology
  report : BuildReport

namespace Setup

variable {σ : Type}

/-- What is done in the session. -/
def inSession (m : DeviceManager σ) (o : SetupOptions) (catalog : Except CatalogError (List Counter)) :
    Action σ SetupError Setup := do
  let (topology, report) ← Action.mapFault .topology (Topology.build m o.rules o.permitPlaceholders)
  let counters ← Action.mapFault .catalog (Action.ofExcept catalog)
  let collector ← Action.mapFault .collector (Collector.start m topology counters o.collector)
  pure { collector, topology, report }

/-- Opens a session and sets up a collector in it. -/
def run (m : DeviceManager σ) (o : SetupOptions) (catalog : Except CatalogError (List Counter)) :
    Action σ SetupError Setup := do
  Action.mapFault .session m.connect
  Action.undoing (inSession m o catalog) m.disconnect

end Setup
end Telemetry
