import Telemetry.Action
import Telemetry.Device.Error
import Telemetry.Device.Reading

/-! The device manager, as the calls that it offers. A call reads and changes the manager's state,
    whether it succeeds or fails; what the state is, each manager says for itself. -/

namespace Telemetry

/-- A call to a device manager with states in `σ`. -/
abbrev Call (σ α : Type) := Action σ DeviceError α

/-- What a device is. -/
structure DeviceInfo where
  index : UInt32
  uuid : String
  model : String
  /-- Whether the device has telemetry at all. -/
  supported : Bool
  deriving DecidableEq, Repr, Inhabited

/-- What stands for a device that cannot be queried. -/
def DeviceInfo.placeholder (index : UInt32) : DeviceInfo :=
  { index, uuid := s!"fake{index.toNat}", model := "", supported := false }

/-- What a partition or a partition of a partition is. -/
structure PartitionInfo where
  deviceUuid : String := ""
  deviceIndex : UInt32 := 0
  /-- Number of the partition within its device. -/
  instanceId : UInt32 := 0
  computeInstanceId : UInt32 := 0
  profileId : UInt32 := 0
  slices : UInt32 := 0
  deriving DecidableEq, Repr, Inhabited

/-- An entity of the listing of partitions, with its parent. -/
structure HierarchyEntry where
  parent : Entity
  entity : Entity
  info : PartitionInfo
  deriving DecidableEq, Repr, Inhabited

/-- The number of a group of entities. -/
structure GroupId where
  number : UInt32
  deriving DecidableEq, Repr, Inhabited

/-- The number of a group of fields. -/
structure FieldGroupId where
  number : UInt32
  deriving DecidableEq, Repr, Inhabited

/-- The names among some values: texts that are no sentinels, with their entities. -/
def namesAmong (values : List FieldValue) : List (Entity × String) :=
  values.filterMap fun v =>
    match v.value with
    | .string s => if Sentinel.isString s then none else some (v.entity, s)
    | _ => none

/-- The names of entities by one reading of the field that holds them; no entities need no reading. -/
def namesByReading {σ : Type} (latestValues : List Entity → List FieldId → Call σ (List FieldValue))
    (entities : List Entity) : Call σ (List (Entity × String)) :=
  if entities.isEmpty then pure []
  else do
    let values ← latestValues entities [Field.deviceName]
    pure (namesAmong values)

/-- A device manager with states in `σ`. -/
structure DeviceManager (σ : Type) where
  connect : Call σ Unit
  disconnect : σ → σ
  deviceCount : Call σ UInt32
  deviceInfo : UInt32 → Call σ DeviceInfo
  /-- The partitions, each with its parent. -/
  hierarchy : Call σ (List HierarchyEntry)
  /-- The latest value of every field for every entity. -/
  latestValues : List Entity → List FieldId → Call σ (List FieldValue)
  createGroup : String → List Entity → Call σ GroupId
  destroyGroup : GroupId → Call σ Unit
  createFieldGroup : String → List FieldId → Call σ FieldGroupId
  destroyFieldGroup : FieldGroupId → Call σ Unit
  /-- Has the fields sampled for the entities, at least once in so many milliseconds. -/
  watchFields : GroupId → FieldGroupId → Nat → Call σ Unit
  /-- The names of entities; entities without one are left out. -/
  resolveNames : List Entity → Call σ (List (Entity × String)) := namesByReading latestValues

end Telemetry
