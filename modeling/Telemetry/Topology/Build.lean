import Telemetry.Topology.Basic

/-! Building a topology from what a device manager tells. Devices come first, then the listing of
    partitions entry by entry, then the names of profiles, and last the rules are held against the
    result; the first fault on the way is the result instead. A missing name is no fault. -/

namespace Telemetry

/-- Why the name of a profile is missing or has no place. -/
inductive UnresolvedReason where
  | missing
  | unknownEntity
  deriving DecidableEq, Repr

def UnresolvedReason.message : UnresolvedReason → String
  | missing => "no name was returned"
  | unknownEntity => "a name was returned for an entity that is not in the topology"

/-- What went wrong with the names of profiles. -/
structure BuildReport where
  unresolved : List (Entity × UnresolvedReason) := []
  deriving DecidableEq, Repr, Inhabited

/-- Whether every name has its place and every place its name. -/
def BuildReport.isComplete (r : BuildReport) : Bool := r.unresolved.isEmpty

namespace Forest

/-! ### The listing of partitions -/

/-- With a partition at the end, and its place with the device that it is of. -/
def addPartition (f : Forest) (device id : UInt32) (info : PartitionInfo) : Forest :=
  let slot := f.partitions.length
  { f with
    devices := f.devices.modify device.toNat fun d => { d with partitions := d.partitions ++ [slot] }
    partitionSlots := (id, slot) :: f.partitionSlots
    partitions := f.partitions ++ [{ id, device, info }] }

/-- With a partition of the partition at a place at the end, and its place with that partition. -/
def addSubPartition (f : Forest) (parent : Nat) (id : UInt32) (info : PartitionInfo) : Forest :=
  let slot := f.subPartitions.length
  { f with
    partitions := f.partitions.modify parent fun p => { p with subPartitions := p.subPartitions ++ [slot] }
    subPartitionSlots := (id, slot) :: f.subPartitionSlots
    subPartitions := f.subPartitions ++ [{ id, partition := parent, info }] }

def attachPartition (f : Forest) (device : UInt32) (entity : Entity) (info : PartitionInfo) :
    Except TopologyError Forest :=
  match f.devices[device.toNat]? with
  | none => .error (.unknownParentDevice entity device)
  | some _ =>
    if (f.partitionSlots.lookup entity.id).isSome then .error (.duplicateEntity entity)
    else .ok (f.addPartition device entity.id info)

def attachSubPartition (f : Forest) (partition : UInt32) (entity : Entity) (info : PartitionInfo) :
    Except TopologyError Forest :=
  match f.partitionSlots.lookup partition with
  | none => .error (.unknownParentPartition entity partition)
  | some parent =>
    if (f.subPartitionSlots.lookup entity.id).isSome then .error (.duplicateEntity entity)
    else .ok (f.addSubPartition parent entity.id info)

/-- With one more entry of the listing; entries with other parents are passed over. -/
def attach (f : Forest) (e : HierarchyEntry) : Except TopologyError Forest :=
  match e.parent.cls with
  | .device => f.attachPartition e.parent.id e.entity e.info
  | .partition => f.attachSubPartition e.parent.id e.entity e.info
  | _ => .ok f

def attachAll : Forest → List HierarchyEntry → Except TopologyError Forest
  | f, [] => .ok f
  | f, e :: es => do
    let f ← f.attach e
    attachAll f es

/-! ### The names of profiles -/

/-- The entities that have profiles: partitions, then partitions of partitions. -/
def entities (f : Forest) : List Entity :=
  f.partitions.map (fun p => Entity.partition p.id) ++ f.subPartitions.map fun s => Entity.subPartition s.id

/-- With the name of an entity's profile, in place of a former one; none if the entity has no place. -/
def rename? (f : Forest) (entity : Entity) (name : String) : Option Forest :=
  match entity.cls with
  | .partition => (f.partitionSlots.lookup entity.id).map fun slot =>
    { f with partitions := f.partitions.modify slot fun p => { p with profile := name } }
  | .subPartition => (f.subPartitionSlots.lookup entity.id).map fun slot =>
    { f with subPartitions := f.subPartitions.modify slot fun s => { s with profile := name } }
  | _ => none

/-- With names of profiles, one after the other, and the entities that have no place. -/
def renameAll : Forest → List (Entity × String) → Forest × List Entity
  | f, [] => (f, [])
  | f, (entity, name) :: names =>
    match f.rename? entity name with
    | some f => renameAll f names
    | none =>
      let (f, strays) := renameAll f names
      (f, entity :: strays)

def isNameless (f : Forest) (entity : Entity) : Bool :=
  match entity.cls with
  | .partition => (f.partition? entity.id).any fun p => p.profile.isEmpty
  | _ => (f.subPartition? entity.id).any fun s => s.profile.isEmpty

/-- With names of profiles, and the report of what went wrong with them. -/
def resolve (f : Forest) (names : List (Entity × String)) : Forest × BuildReport :=
  let (g, strays) := f.renameAll names
  (g, { unresolved := strays.map (·, .unknownEntity) ++ (f.entities.filter g.isNameless).map (·, .missing) })

end Forest

namespace Topology

/-! ### The rules -/

/-- The first of some indices that does not pass. -/
def firstMissing (found : UInt32 → Bool) : Option Selection → Option UInt32
  | some (.indices is) => is.find? fun i => !found i
  | _ => none

/-- Refuses rules that name what the topology does not have, devices first. -/
def validate (t : Topology) : Except TopologyError Unit :=
  match firstMissing (fun i => (t.device? i).isSome) t.rules.devices with
  | some i => .error (.missingDevice i)
  | none =>
    match firstMissing (fun i => (t.partition? i).isSome) t.rules.partitions with
    | some i => .error (.missingPartition i)
    | none => .ok ()

/-! ### Building -/

variable {σ : Type}

/-- What a device is; with `permitPlaceholders`, a failure to tell gives a placeholder, unless no later
    call can succeed. -/
def readDevice (m : DeviceManager σ) (permitPlaceholders : Bool) (index : UInt32) : Call σ DeviceInfo := fun s =>
  match m.deviceInfo index s with
  | (.ok info, s) => (.ok info, s)
  | (.error e, s) =>
    if permitPlaceholders && !e.isFatal then (.ok (DeviceInfo.placeholder index), s) else (.error e, s)

/-- What the devices are, in the order of their indices. -/
def readDevices (m : DeviceManager σ) (permitPlaceholders : Bool) (count : Nat) :
    Action σ TopologyError (List DeviceInfo) :=
  (List.range count).mapM fun i => Action.mapFault .device (readDevice m permitPlaceholders (UInt32.ofNat i))

/-- The topology of devices, with what a device manager tells of their partitions. -/
def ofDevices (m : DeviceManager σ) (rules : SelectionRules) (infos : List DeviceInfo) :
    Action σ TopologyError (Topology × BuildReport) := do
  let listing ← Action.mapFault .device m.hierarchy
  let forest ← Action.ofExcept (Forest.attachAll { devices := infos.map fun info => { info } } listing)
  let names ← Action.mapFault .device (m.resolveNames forest.entities)
  let (forest, report) := forest.resolve names
  let topology : Topology := { forest, partitioning := !listing.isEmpty, rules }
  Action.ofExcept topology.validate
  pure (topology, report)

/-- The topology that a device manager tells of. -/
def build (m : DeviceManager σ) (rules : SelectionRules) (permitPlaceholders : Bool) :
    Action σ TopologyError (Topology × BuildReport) := do
  let count ← Action.mapFault .device m.deviceCount
  if maxDevices < count.toNat then Action.ofExcept (.error (.tooManyDevices count))
  else do
    let infos ← readDevices m permitPlaceholders count.toNat
    ofDevices m rules infos

end Topology
end Telemetry
