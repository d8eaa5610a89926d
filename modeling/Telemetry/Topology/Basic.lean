import Telemetry.Device.Manager
import Telemetry.Selection.Basic

/-! Topologies: the devices in the order of their indices, their partitions and the partitions of
    these. All partitions are kept in the order of the listing that they come from, and so are the
    partitions of partitions. A parent knows its children, and a partition of a partition its parent,
    by their places there; the numbers of entities lead to their places too. -/

namespace Telemetry

structure DeviceNode where
  info : DeviceInfo
  /-- The places of its partitions. -/
  partitions : List Nat := []
  deriving DecidableEq, Repr, Inhabited

structure PartitionNode where
  id : UInt32
  /-- The index of its device. -/
  device : UInt32
  info : PartitionInfo
  /-- The name of its profile, empty if none is known. -/
  profile : String := ""
  /-- The places of its own partitions. -/
  subPartitions : List Nat := []
  deriving DecidableEq, Repr, Inhabited

/-- A partition of a partition. -/
structure SubPartitionNode where
  id : UInt32
  /-- The place of the partition that it is of. -/
  partition : Nat
  info : PartitionInfo
  /-- The name of its profile, empty if none is known. -/
  profile : String := ""
  deriving DecidableEq, Repr, Inhabited

/-- Places by the numbers of entities; of two places for a number, the one in front counts. -/
abbrev Slots := List (UInt32 × Nat)

/-- The devices and the partitions of all of them. -/
structure Forest where
  devices : List DeviceNode := []
  partitions : List PartitionNode := []
  subPartitions : List SubPartitionNode := []
  partitionSlots : Slots := []
  subPartitionSlots : Slots := []
  deriving DecidableEq, Repr, Inhabited

/-- What there is to monitor, with the rules that select from it. -/
structure Topology where
  forest : Forest
  /-- Whether the listing of partitions had any entry. -/
  partitioning : Bool
  rules : SelectionRules
  deriving DecidableEq, Repr, Inhabited

/-- Why there is no topology, or no selection from it. -/
inductive TopologyError where
  | device (e : DeviceError)
  | tooManyDevices (count : UInt32)
  | unknownParentDevice (entity : Entity) (index : UInt32)
  | unknownParentPartition (entity : Entity) (id : UInt32)
  | duplicateEntity (entity : Entity)
  | missingDevice (index : UInt32)
  | missingPartition (id : UInt32)
  deriving DecidableEq, Repr

namespace Forest

def partition? (f : Forest) (id : UInt32) : Option PartitionNode :=
  (f.partitionSlots.lookup id).bind fun slot => f.partitions[slot]?

def subPartition? (f : Forest) (id : UInt32) : Option SubPartitionNode :=
  (f.subPartitionSlots.lookup id).bind fun slot => f.subPartitions[slot]?

def partitionsOf (f : Forest) (d : DeviceNode) : List PartitionNode :=
  d.partitions.filterMap fun slot => f.partitions[slot]?

def subPartitionsOf (f : Forest) (p : PartitionNode) : List SubPartitionNode :=
  p.subPartitions.filterMap fun slot => f.subPartitions[slot]?

end Forest

namespace Topology

/-- The number of devices that a topology may have at most. -/
def maxDevices : Nat := 32

def devices (t : Topology) : List DeviceInfo := t.forest.devices.map DeviceNode.info

def device? (t : Topology) (index : UInt32) : Option DeviceInfo := t.devices[index.toNat]?

/-- The first device with this identity. -/
def deviceByUuid? (t : Topology) (uuid : String) : Option DeviceInfo := t.devices.find? fun d => d.uuid == uuid

def partitionsOf (t : Topology) (index : UInt32) : List PartitionNode :=
  match t.forest.devices[index.toNat]? with
  | none => []
  | some d => t.forest.partitionsOf d

/-- All partitions, device by device. -/
def partitions (t : Topology) : List PartitionNode := t.forest.devices.flatMap t.forest.partitionsOf

def partition? (t : Topology) (id : UInt32) : Option PartitionNode := t.forest.partition? id

def deviceOf? (t : Topology) (p : PartitionNode) : Option DeviceInfo := t.device? p.device

def subPartitionsOf (t : Topology) (id : UInt32) : List SubPartitionNode :=
  match t.partition? id with
  | none => []
  | some p => t.forest.subPartitionsOf p

def subPartition? (t : Topology) (id : UInt32) : Option SubPartitionNode := t.forest.subPartition? id

/-- The partition that a partition of a partition is of. -/
def partitionOf? (t : Topology) (s : SubPartitionNode) : Option PartitionNode := t.forest.partitions[s.partition]?

end Topology

namespace TopologyError

def message : TopologyError → String
  | device e => e.message
  | tooManyDevices count => s!"Found {count} devices, at most {Topology.maxDevices} are supported"
  | unknownParentDevice entity index => s!"{entity.text} refers to unknown device {index}"
  | unknownParentPartition entity id => s!"{entity.text} refers to unknown partition {id}"
  | duplicateEntity entity => s!"{entity.text} is listed more than once"
  | missingDevice index => s!"Couldn't find requested device id {index}"
  | missingPartition id => s!"Couldn't find requested partition id {id}"

end TopologyError
end Telemetry
