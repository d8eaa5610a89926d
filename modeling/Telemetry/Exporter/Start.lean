import Telemetry.Catalog.Reading
import Telemetry.Pipeline.Basic
import Telemetry.Pipeline.Setup
import Telemetry.Pods.Attribution
import Telemetry.Settings.Basic
import Telemetry.Simulation.Manager
import Telemetry.Simulation.Yaml

/-! The start of a lifetime: the pipeline that the settings ask for, over the devices that they describe.
    The first step that fails ends the start with a report of what was being done. -/

namespace Telemetry
namespace Exporter

open Text

/-- What the exporter finds around it. -/
structure Surroundings (σ : Type) where
  /-- The bytes of a file, or why it cannot be opened. -/
  file : String → Except String (List UInt8)
  hostname : String
  /-- Asks for the pods and the devices that they hold. -/
  pods : Action σ Report PodListing

variable {σ : Type}

/-! ### Devices -/

/-- Why a text that is to be read holds none. -/
def noText : String := "stream did not contain valid UTF-8"

/-- The text of a file. -/
def Surroundings.text (env : Surroundings σ) (path : String) : Except String String := do
  let bytes ← env.file path
  match decode? bytes with
  | some s => pure s
  | none => .error noText

/-- The description of the devices: the one in the file that the settings name, or two plain devices. -/
def describedDevices (env : Surroundings σ) (s : Settings) : Except Report Simulation :=
  match s.simulation with
  | none => .ok .standard
  | some path =>
    match env.text path with
    | .error reason => .error ((Report.ofText reason).wrap s!"Failed to read simulation file {quoted path}")
    | .ok text =>
      match Simulation.ofYaml? text with
      | none => .error (Report.ofText s!"Failed to parse simulation file {quoted path}")
      | some d => .ok d

/-! ### Reports -/

/-- The report of a failure in the topology; that of a device manager is one of its own. -/
def topologyReport : TopologyError → Report
  | .device e => Report.ofDevice e
  | e => Report.ofText e.message

/-- The report of a catalog that is refused. -/
def catalogReport (e : CatalogError) : Report := { cause := .other e.message e.sources }

/-- The report of a set-up that failed; the catalog is named by its file. -/
def setupReport (catalog : String) : SetupError → Report
  | .session e => (Report.ofDevice e).wrap "Failed to connect to the device manager"
  | .topology e => (topologyReport e).wrap "Failed to build the device topology"
  | .catalog e => (catalogReport e).wrap s!"Failed to load the counters from {quoted catalog}"
  | .collector e => topologyReport e

/-! ### Pipelines -/

/-- The label style that the settings ask for. -/
def labelStyle (s : Settings) : LabelStyle := if s.useOldNamespace then .legacy else .current

/-- What the settings say about the set-up. -/
def setupOptions (env : Surroundings σ) (s : Settings) : SetupOptions where
  rules := s.rules
  permitPlaceholders := s.fakeGpus
  collector :=
    { hostname := if s.noHostname then none else some env.hostname
      style := labelStyle s
      intervalMs := s.collectIntervalMs.toNat }

/-- The catalog of the file that the settings name. -/
def catalog (env : Surroundings σ) (s : Settings) : Except CatalogError (List Counter) :=
  Catalog.ofFile s.collectors (env.file s.collectors)

/-- The transforms that the settings ask for. -/
def transforms (env : Surroundings σ) (s : Settings) : List (Transform σ) :=
  if s.kubernetes then [Attribution.transform env.pods s.idType (labelStyle s)] else []

/-- The pipeline over a device manager. -/
def startOver (m : DeviceManager σ) (env : Surroundings σ) (s : Settings) : Action σ Report (Pipeline σ) := do
  let x ← Action.mapFault (setupReport s.collectors) (Setup.run m (setupOptions env s) (catalog env s))
  pure { manager := m, collector := x.collector, topology := x.topology, transforms := transforms env s }

/-- The pipeline over the described devices, with their state once it is set up. -/
def start (env : Surroundings Simulation.State) (s : Settings) :
    Except Report (Pipeline Simulation.State × Simulation.State) := do
  let devices ← describedDevices env s
  match startOver devices.manager env s {} with
  | (.ok p, world) => pure (p, world)
  | (.error r, _) => .error r

end Exporter
end Telemetry
