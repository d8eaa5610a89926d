import Telemetry.Topology.Basic

/-! The entities that the rules of a topology select, with what their labels need. The flexible rule
    selects all partitions if there is a listing of partitions and all devices otherwise; of explicit
    rules only the one for partitions counts when it is there. -/

namespace Telemetry

/-- What a selected partition is. -/
structure PartitionIdentity where
  id : UInt32
  instanceId : UInt32
  profile : String
  deriving DecidableEq, Repr, Inhabited

/-- A selected entity, with its device. -/
structure MonitoredEntity where
  entity : Entity
  device : DeviceInfo
  partition : Option PartitionIdentity := none
  deriving DecidableEq, Repr, Inhabited

namespace Topology

def monitoredDevice (d : DeviceInfo) : MonitoredEntity := { entity := Entity.device d.index, device := d }

def monitoredPartition (t : Topology) (p : PartitionNode) : Except TopologyError MonitoredEntity :=
  match t.deviceOf? p with
  | none => .error (.missingDevice p.device)
  | some d =>
    .ok
      { entity := Entity.partition p.id
        device := d
        partition := some { id := p.id, instanceId := p.info.instanceId, profile := p.profile } }

def allDevices (t : Topology) : List MonitoredEntity := t.devices.map monitoredDevice

def allPartitions (t : Topology) : Except TopologyError (List MonitoredEntity) :=
  t.partitions.mapM t.monitoredPartition

/-- The devices that a rule selects. -/
def selectedDevices (t : Topology) : Selection → Except TopologyError (List MonitoredEntity)
  | .all => .ok t.allDevices
  | .indices is =>
    is.mapM fun i =>
      match t.device? i with
      | none => .error (.missingDevice i)
      | some d => .ok (monitoredDevice d)

/-- The partitions that a rule selects. -/
def selectedPartitions (t : Topology) : Selection → Except TopologyError (List MonitoredEntity)
  | .all => t.allPartitions
  | .indices is =>
    is.mapM fun i =>
      match t.partition? i with
      | none => .error (.missingPartition i)
      | some p => t.monitoredPartition p

/-- The selected entities. -/
def selected (t : Topology) : Except TopologyError (List MonitoredEntity) :=
  match t.rules with
  | .flex => if t.partitioning then t.allPartitions else .ok t.allDevices
  | .explicit _ (some p) => t.selectedPartitions p
  | .explicit (some d) none => t.selectedDevices d
  | .explicit none none => .ok []

end Topology
end Telemetry
