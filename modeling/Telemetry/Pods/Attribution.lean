import Telemetry.Pipeline.Transform
import Telemetry.Pods.Basic
import Telemetry.Pods.IdType
import Telemetry.Text.Split

/-! Attribution of devices to the containers that hold them. Every device identifier of a listing gives
    keys for its container, and a metric belongs to the container that its own key stands for. A key
    that comes twice stands for what it came with last. -/

namespace Telemetry

/-- The container that holds a device. -/
structure Holder where
  pod : String
  namespaceName : String
  container : String
  deriving DecidableEq, Repr, Inhabited

namespace Attribution

/-- The resource of whole devices. -/
def deviceResource : String := "nvidia.com/gpu"

/-- What the resources of partitions begin with. -/
def partitionResource : List Char := "nvidia.com/mig-".toList

/-- What the identifiers of partitions begin with. -/
def partitionMark : List Char := "MIG-".toList

/-- The characters behind a beginning. -/
def after? : List Char → List Char → Option (List Char)
  | [], cs => some cs
  | _ :: _, [] => none
  | p :: ps, c :: cs => if p = c then after? ps cs else none

/-- Whether devices of the resource are monitored. -/
def isMonitored (resource : String) : Bool :=
  resource == deviceResource || (after? partitionResource resource.toList).isSome

/-- The key of a partition of the device with an index. -/
def partitionKey (device : UInt32) (instanceId : String) : String := s!"{device}-{instanceId}"

/-- The keys that an identifier gives. That of a partition names the device and the partition within
    it, and stands for the whole device too. -/
def keysOf (t : Topology) (id : String) : List String :=
  match after? partitionMark id.toList with
  | none => [id]
  | some rest =>
    match Text.split '/' rest with
    | uuid :: instanceId :: _ =>
      let uuid := String.ofList uuid
      match t.deviceByUuid? uuid with
      | some d => [partitionKey d.index (String.ofList instanceId), uuid]
      | none => [uuid]
    | parts => [String.ofList (parts.headD [])]

/-- The identifiers of monitored devices that a container holds. -/
def idsOf (c : Container) : List String := (c.devices.filter fun a => isMonitored a.resource).flatMap Allocation.ids

/-- The holders of a pod, each with the identifiers of its devices. -/
def holdersOf (p : Pod) : List (Holder × List String) :=
  p.containers.map fun c => ({ pod := p.name, namespaceName := p.namespaceName, container := c.name }, idsOf c)

/-- All keys of a listing with their holders, in the order of the listing. -/
def entries (t : Topology) (pods : List Pod) : List (String × Holder) :=
  (pods.flatMap holdersOf).flatMap fun (h, ids) => (ids.flatMap (keysOf t)).map (·, h)

/-- The holders by their keys. -/
def holders (t : Topology) (pods : List Pod) : SortedMap Holder := SortedMap.ofList (entries t pods)

/-- The key of a metric. -/
def keyOf (type : IdType) (m : Metric) : String :=
  match m.partition, type with
  | some p, _ => s!"{m.gpu}-{p.instanceId}"
  | none, .uid => m.uuid
  | none, .deviceName => m.device

/-- The labels for pod, namespace and container. -/
def labelNames : LabelStyle → String × String × String
  | .current => ("pod", "namespace", "container")
  | .legacy => ("pod_name", "pod_namespace", "container_name")

/-- A metric with the labels of its holder. -/
def label (style : LabelStyle) (h : Holder) (m : Metric) : Metric :=
  let (pod, namespaceName, container) := labelNames style
  { m with
    attributes :=
      ((m.attributes.insert pod h.pod).insert namespaceName h.namespaceName).insert container h.container }

/-- A metric with the labels of its holder, if it has one. -/
def labelled (type : IdType) (style : LabelStyle) (holders : SortedMap Holder) (m : Metric) : Metric :=
  match holders.get? (keyOf type m) with
  | none => m
  | some h => label style h m

/-- All metrics with the labels of their holders. -/
def labelAll (type : IdType) (style : LabelStyle) (t : Topology) (pods : List Pod) (metrics : MetricSet) :
    MetricSet :=
  let hs := holders t pods
  metrics.map fun ms => ms.map (labelled type style hs)

/-- The transform that asks for the pods and labels the metrics. No listing leaves the metrics alone, and
    so does a failure to list. -/
def transform {σ : Type} (list : Action σ Report PodListing) (type : IdType) (style : LabelStyle) : Transform σ where
  name := "pod_mapper"
  process t := fun (metrics, s) =>
    match list s with
    | (.error r, s) => (.error r, (metrics, s))
    | (.ok none, s) => (.ok (), (metrics, s))
    | (.ok (some pods), s) => (.ok (), (labelAll type style t pods metrics, s))

end Attribution
end Telemetry
