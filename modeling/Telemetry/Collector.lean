import Telemetry.Device.Watch
import Telemetry.Metric
import Telemetry.Topology.Selected

/-! Collectors. A collector watches the fields of its counters for the selected entities, and every
    pass reads each entity once. A pass fails with the first entity that cannot be read, or that does
    not give one value for every counter; readings without a text give no metric. -/

namespace Telemetry

/-- What a collector puts into its metrics and asks of the device manager. -/
structure CollectorOptions where
  /-- The value of the label for the host, if it is to be there. -/
  hostname : Option String := none
  style : LabelStyle := .current
  /-- How often the device manager is to sample the fields. -/
  intervalMs : Nat := 0
  deriving DecidableEq, Repr

/-- A collector. -/
structure Collector where
  counters : List Counter
  entities : List MonitoredEntity
  options : CollectorOptions
  watch : Watch
  deriving DecidableEq, Repr

/-- The labels of a partition, which are left out if its profile has no name. -/
def PartitionIdentity.labels? (p : PartitionIdentity) : Option PartitionLabels :=
  if p.profile.isEmpty then none else some { profile := p.profile, instanceId := toString p.instanceId }

namespace Collector

variable {σ : Type}

/-- The name of the groups of a collector. -/
def groupName : String := "gpu-telemetry-exporter"

/-- The fields to read, in the order of the counters. -/
def fieldsOf (counters : List Counter) : List FieldId := counters.map Counter.field

/-- Watches the fields of the counters for the entities that the topology selects. -/
def start (m : DeviceManager σ) (t : Topology) (counters : List Counter) (options : CollectorOptions) :
    Action σ TopologyError Collector := do
  let entities ← Action.ofExcept t.selected
  let watch ← Action.mapFault .device <|
    m.startWatch groupName (entities.map MonitoredEntity.entity) (fieldsOf counters) options.intervalMs
  pure { counters, entities, options, watch }

/-- The metric of a counter for an entity, if its value has a text. -/
def metric? (options : CollectorOptions) (e : MonitoredEntity) (counter : Counter) (v : FieldValue) : Option Metric :=
  v.sample.map fun value =>
    { counter, value
      gpu := toString e.device.index
      uuid := e.device.uuid
      device := s!"nvidia{e.device.index}"
      model := e.device.model
      style := options.style
      partition := e.partition.bind PartitionIdentity.labels?
      hostname := options.hostname
      attributes := SortedMap.empty }

/-- The metrics of an entity, given a value for every counter. -/
def metricsOf (options : CollectorOptions) (counters : List Counter) (e : MonitoredEntity) (vs : List FieldValue) :
    List Metric :=
  (counters.zip vs).filterMap fun (c, v) => metric? options e c v

/-- The failure of a reading that does not give one value for every counter. -/
def wrongCount (expected : Nat) (e : Entity) (got : Nat) : DeviceError :=
  .backend s!"expected {expected} values for {e.text}, got {got}"

/-- Reads an entity. -/
def read (m : DeviceManager σ) (c : Collector) (e : MonitoredEntity) : Call σ (List Metric) := do
  let vs ← m.latestValues [e.entity] (fieldsOf c.counters)
  if vs.length = c.counters.length then pure (metricsOf c.options c.counters e vs)
  else Action.ofExcept (.error (wrongCount c.counters.length e.entity vs.length))

/-- One pass over all entities. -/
def collect (m : DeviceManager σ) (c : Collector) : Call σ MetricSet := c.entities.mapM (c.read m)

/-- Ends the watch and the session, which no one else holds. -/
def release (m : DeviceManager σ) (c : Collector) (s : σ) : σ := m.disconnect (m.stopWatch c.watch s)

end Collector
end Telemetry
