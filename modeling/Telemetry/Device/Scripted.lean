import Telemetry.Device.Manager

/-! A device manager that follows a script: every call is answered by what the script has for it,
    whatever was asked. Only the readings depend on a state, the number of readings so far. -/

namespace Telemetry

/-- A value of a script; without an entity it is for the first entity that is asked for. -/
structure ScriptedValue where
  entity : Option Entity := none
  type : FieldType
  value : RawValue
  deriving DecidableEq, Repr

/-- The answers to all calls. -/
structure Script where
  connect : Except DeviceError Unit := .ok ()
  group : Except DeviceError Unit := .ok ()
  fieldGroup : Except DeviceError Unit := .ok ()
  watch : Except DeviceError Unit := .ok ()
  destroy : Except DeviceError Unit := .ok ()
  /-- The number of devices; the number of `infos` when none is given. -/
  count : Option (Except DeviceError UInt32) := none
  infos : List (Except DeviceError DeviceInfo) := []
  hierarchy : Except DeviceError (List HierarchyEntry) := .ok []
  /-- The answers to successive readings, the last of which repeats. -/
  values : List (Except DeviceError (List ScriptedValue)) := []
  /-- The names of entities; they come from a reading when none are given. -/
  names : Option (Except DeviceError (List (Entity × String))) := none

namespace Script

/-- A call that leaves the state alone. -/
def answer {α : Type} (r : Except DeviceError α) : Call Nat α := fun s => (r, s)

/-- A device of which only the index is known. -/
def plainDevice (index : UInt32) : DeviceInfo :=
  { index, uuid := s!"GPU-{index.toNat}", model := "test", supported := true }

/-- A value of the script as the answer to a reading for `entities`. -/
def fieldValue (entities : List Entity) (v : ScriptedValue) : FieldValue :=
  { entity := v.entity.getD (entities.headD (Entity.device 0)), field := 0, type := v.type, value := v.value }

/-- The answer to reading number `k`. -/
def reading (s : Script) (entities : List Entity) (k : Nat) : Except DeviceError (List FieldValue) :=
  match s.values[min k (s.values.length - 1)]? with
  | none => .ok []
  | some r => r.map fun vs => vs.map (fieldValue entities)

/-- Answers a reading and counts it. -/
def latestValues (s : Script) (entities : List Entity) (_ : List FieldId) : Call Nat (List FieldValue) :=
  fun k => (s.reading entities k, k + 1)

/-- The manager that follows the script. -/
def manager (s : Script) : DeviceManager Nat where
  connect := answer s.connect
  disconnect k := k
  deviceCount := answer (s.count.getD (.ok (UInt32.ofNat s.infos.length)))
  deviceInfo i := answer ((s.infos[i.toNat]?).getD (.ok (plainDevice i)))
  hierarchy := answer s.hierarchy
  latestValues := s.latestValues
  createGroup _ _ := answer (s.group.map fun _ => ⟨1⟩)
  destroyGroup _ := answer s.destroy
  createFieldGroup _ _ := answer (s.fieldGroup.map fun _ => ⟨2⟩)
  destroyFieldGroup _ := answer s.destroy
  watchFields _ _ _ := answer s.watch
  resolveNames es :=
    match s.names with
    | some r => answer r
    | none => namesByReading s.latestValues es

end Script
end Telemetry
