import Telemetry.Catalog.Counter
import Telemetry.SortedMap

/-! Metrics: samples of counters, each with its text and the identity of the entity that it is of. -/

namespace Telemetry

/-- Which of two sets of label names to use. -/
inductive LabelStyle where
  | current
  | legacy
  deriving DecidableEq, Repr, Inhabited

/-- The label that holds the identity of a device. -/
def LabelStyle.uuid : LabelStyle → String
  | current => "UUID"
  | legacy => "uuid"

/-- The labels of a sample of a partition. -/
structure PartitionLabels where
  profile : String
  instanceId : String
  deriving DecidableEq, Repr, Inhabited

/-- A sample of a counter. -/
structure Metric where
  counter : Counter
  value : String
  gpu : String
  uuid : String
  device : String
  model : String
  style : LabelStyle
  partition : Option PartitionLabels
  hostname : Option String
  /-- Further labels. -/
  attributes : SortedMap String
  deriving DecidableEq, Inhabited

namespace Metric

/-- The labels of a sample with their values, in the order in which they are shown. -/
def labels (m : Metric) : List (String × String) :=
  let partition :=
    match m.partition with
    | none => []
    | some p => [("GPU_I_PROFILE", p.profile), ("GPU_I_ID", p.instanceId)]
  let hostname := m.hostname.toList.map fun h => ("Hostname", h)
  [("gpu", m.gpu), (m.style.uuid, m.uuid), ("device", m.device), ("modelName", m.model)] ++ partition ++ hostname ++
    m.attributes.toList

end Metric

/-- The metrics of one pass, one list for every monitored entity. -/
abbrev MetricSet := List (List Metric)

end Telemetry
