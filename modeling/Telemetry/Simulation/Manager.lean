import Telemetry.Simulation.Basic

/-! The device manager over a description. It knows nothing while no one is connected. Readings that
    the description does not fix drift a little from one reading to the next, with a period of five;
    groups are numbered in the order of their creation, those of entities and of fields together. -/

namespace Telemetry
namespace Simulation

/-- What changes while the manager is in use. -/
structure State where
  connected : Bool := false
  /-- The number of readings so far. -/
  reads : UInt64 := 0
  /-- The number that was handed out last. -/
  lastId : UInt32 := 0
  groups : List (GroupId × List Entity) := []
  fieldGroups : List (FieldGroupId × List FieldId) := []
  watched : List (GroupId × FieldGroupId) := []
  deriving DecidableEq, Repr, Inhabited

namespace State

/-- The number of groups that are not destroyed. -/
def openGroups (s : State) : Nat := s.groups.length + s.fieldGroups.length

/-- The state once the connection is lost. -/
def dropConnection (s : State) : State := { s with connected := false }

def hasGroup (s : State) (g : GroupId) : Bool := s.groups.any fun x => x.1 == g

def hasFieldGroup (s : State) (g : FieldGroupId) : Bool := s.fieldGroups.any fun x => x.1 == g

end State

/-! ### Readings -/

/-- What is read where a field is not supported. -/
def notSupported : FieldType → RawValue
  | .double => .double (Sentinel.double .notSupported)
  | .string => .string (Sentinel.string .notSupported)
  | .binary => .blob []
  | .int64 | .timestamp => .int64 (Sentinel.int64 .notSupported)

/-- A fixed reading of a field of some type; an integer becomes a double where doubles are read. -/
def fixedValue : FixedReading → FieldType → RawValue
  | .int n, .double => .double (Double.ofInt n.toInt)
  | .int n, _ => .int64 n
  | .double x, _ => .double x
  | .text s, _ => .string s

/-- What reading number `tick` gives for a field that nothing fixes. -/
def driftingValue (e : Entity) (f : Field) (tick : UInt64) : RawValue :=
  let base := (f.id.toNat * 7 + e.id.toNat * 3) % 100
  let drift := tick.toNat % 5
  match f.type with
  | .int64 | .timestamp => .int64 (Int64.ofNat (base + drift))
  | .double => .double (Double.ofRatio false (4 * base + drift) 4)
  | .string => .string ""
  | .binary => .blob []

/-- The version that every device gives for its driver. -/
def driverVersion : String := "550.54.15"

/-- What reading number `tick` gives. Name, identity and driver are known of every device; for other
    fields a lack of support comes before a fixed reading. -/
def valueAt (p : Place) (e : Entity) (f : Field) (tick : UInt64) : RawValue :=
  if f.id = Field.deviceName then .string (p.name?.getD (Sentinel.string .blank))
  else if f.id = Field.deviceUuid then .string p.device.uuid
  else if f.id = Field.driverVersion then .string driverVersion
  else if !p.device.supported || p.device.notSupported.contains f.name then notSupported f.type
  else
    match p.device.values.get? f.name with
    | some v => fixedValue v f.type
    | none => driftingValue e f tick

/-- The fields with some numbers, or the first number that no field has. -/
def findFields : List FieldId → Except DeviceError (List Field)
  | [] => .ok []
  | id :: ids =>
    match Field.byId? id with
    | none => .error (.unknownField id)
    | some f => (findFields ids).map (f :: ·)

/-- The values of some fields for an entity. -/
def valuesOf (sim : Simulation) (e : Entity) (fields : List Field) (tick : UInt64) :
    Except DeviceError (List FieldValue) :=
  match (sim.locate? e).bind sim.place? with
  | none => .error (.unknownEntity e)
  | some p => .ok (fields.map fun f => { entity := e, field := f.id, type := f.type, value := valueAt p e f tick })

/-- The values of some fields for some entities, entity by entity. -/
def valuesOfAll (sim : Simulation) (fields : List Field) (tick : UInt64) :
    List Entity → Except DeviceError (List FieldValue)
  | [] => .ok []
  | e :: es => do
    let vs ← valuesOf sim e fields tick
    let ws ← valuesOfAll sim fields tick es
    pure (vs ++ ws)

/-- What reading number `tick` gives for some fields of some entities. -/
def reading (sim : Simulation) (entities : List Entity) (ids : List FieldId) (tick : UInt64) :
    Except DeviceError (List FieldValue) := do
  let fields ← findFields ids
  valuesOfAll sim fields tick entities

/-! ### What there is -/

def unknownDevice (index : UInt32) : DeviceError := .deviceUnavailable index "no such device"

def deviceInfo (sim : Simulation) (index : UInt32) : Except DeviceError DeviceInfo :=
  match sim.devices[index.toNat]? with
  | none => .error (unknownDevice index)
  | some d =>
    if d.unavailable then .error (.deviceUnavailable index "device is unavailable")
    else .ok { index, uuid := d.uuid, model := d.model, supported := d.supported }

/-- The entries of a partition of the device at a place, its own partitions behind it. -/
def partitionListing (index : UInt32) (d : SimulatedDevice) (p : SimulatedPartition) : List HierarchyEntry :=
  let info : PartitionInfo :=
    { deviceUuid := d.uuid, deviceIndex := index, instanceId := p.instanceId, profileId := p.profileId,
      slices := p.slices }
  { parent := Entity.device index, entity := Entity.partition p.id, info } ::
    p.subPartitions.map fun s =>
      { parent := Entity.partition p.id, entity := Entity.subPartition s.id,
        info := { info with computeInstanceId := s.computeInstanceId } }

def hierarchy (sim : Simulation) : List HierarchyEntry :=
  (indexed sim.devices).flatMap fun (i, d) => d.partitions.flatMap (partitionListing (UInt32.ofNat i) d)

/-! ### The calls -/

/-- A call that fails while no one is connected. -/
def whenConnected {α : Type} (f : State → Except DeviceError α × State) : Call State α := fun s =>
  if s.connected then f s else (.error (.connectionLost "not connected"), s)

/-- Reads, which counts even if it fails. -/
def latestValues (sim : Simulation) (entities : List Entity) (ids : List FieldId) : Call State (List FieldValue) :=
  whenConnected fun s => (sim.reading entities ids s.reads, { s with reads := s.reads + 1 })

def createGroup (sim : Simulation) (entities : List Entity) : Call State GroupId :=
  whenConnected fun s =>
    match entities.find? fun e => (sim.locate? e).isNone with
    | some e => (.error (.unknownEntity e), s)
    | none =>
      let g : GroupId := ⟨s.lastId + 1⟩
      (.ok g, { s with lastId := s.lastId + 1, groups := s.groups.filter (·.1 ≠ g) ++ [(g, entities)] })

def createFieldGroup (ids : List FieldId) : Call State FieldGroupId :=
  whenConnected fun s =>
    match ids.find? fun id => (Field.byId? id).isNone with
    | some id => (.error (.unknownField id), s)
    | none =>
      let g : FieldGroupId := ⟨s.lastId + 1⟩
      (.ok g, { s with lastId := s.lastId + 1, fieldGroups := s.fieldGroups.filter (·.1 ≠ g) ++ [(g, ids)] })

/-- Destroys a group of entities and ends its watches; no connection is needed. -/
def destroyGroup (g : GroupId) : Call State Unit := fun s =>
  let rest : State := { s with groups := s.groups.filter (·.1 ≠ g), watched := s.watched.filter (·.1 ≠ g) }
  (if s.hasGroup g then .ok () else .error (.unknownGroup g.number), rest)

/-- Destroys a group of fields and ends its watches; no connection is needed. -/
def destroyFieldGroup (g : FieldGroupId) : Call State Unit := fun s =>
  let rest : State :=
    { s with fieldGroups := s.fieldGroups.filter (·.1 ≠ g), watched := s.watched.filter (·.2 ≠ g) }
  (if s.hasFieldGroup g then .ok () else .error (.unknownGroup g.number), rest)

def watchFields (g : GroupId) (f : FieldGroupId) : Call State Unit :=
  whenConnected fun s =>
    if !s.hasGroup g then (.error (.unknownGroup g.number), s)
    else if !s.hasFieldGroup f then (.error (.unknownGroup f.number), s)
    else (.ok (), if s.watched.contains (g, f) then s else { s with watched := s.watched ++ [(g, f)] })

/-- The manager of the described devices. -/
def manager (sim : Simulation) : DeviceManager State where
  connect s := (.ok (), { s with connected := true })
  disconnect s := { s with connected := false }
  deviceCount := whenConnected fun s => (.ok (UInt32.ofNat sim.devices.length), s)
  deviceInfo index := whenConnected fun s => (sim.deviceInfo index, s)
  hierarchy := whenConnected fun s => (.ok sim.hierarchy, s)
  latestValues := sim.latestValues
  createGroup _ entities := sim.createGroup entities
  destroyGroup := destroyGroup
  createFieldGroup _ ids := createFieldGroup ids
  destroyFieldGroup := destroyFieldGroup
  watchFields g f _ := watchFields g f

end Simulation
end Telemetry
