import Telemetry.Device.Manager

/-! A record of the calls that reach a device manager, in the order in which they are made and
    whether or not they succeed. -/

namespace Telemetry

/-- A call to a device manager, with its arguments. -/
inductive ManagerCall where
  | connect
  | disconnect
  | deviceCount
  | deviceInfo (index : UInt32)
  | hierarchy
  | latestValues (entities : List Entity) (fields : List FieldId)
  | createGroup (name : String) (entities : List Entity)
  | destroyGroup (group : GroupId)
  | createFieldGroup (name : String) (fields : List FieldId)
  | destroyFieldGroup (group : FieldGroupId)
  | watchFields (group : GroupId) (fieldGroup : FieldGroupId) (intervalMs : Nat)
  | resolveNames (entities : List Entity)
  deriving DecidableEq, Repr

/-- Whether the call opens or closes something at the manager. -/
def ManagerCall.isLifecycle : ManagerCall → Bool
  | connect | disconnect | createGroup .. | destroyGroup _ | createFieldGroup .. | destroyFieldGroup _
  | watchFields .. => true
  | _ => false

/-- A state with the calls that led to it, the earliest first. -/
structure Logged (σ : Type) where
  state : σ
  calls : List ManagerCall := []
  deriving Repr

namespace Logged

variable {σ α : Type}

/-- With one more call. -/
def record (c : ManagerCall) (s : σ) (calls : List ManagerCall) : Logged σ :=
  { state := s, calls := calls ++ [c] }

/-- A call that is put on record. -/
def call (c : ManagerCall) (f : Call σ α) : Call (Logged σ) α := fun s =>
  let (r, s') := f s.state
  (r, record c s' s.calls)

/-- The calls that open or close something. -/
def lifecycle (s : Logged σ) : List ManagerCall := s.calls.filter ManagerCall.isLifecycle

end Logged

/-- The manager with its calls on record. -/
def DeviceManager.logged {σ : Type} (m : DeviceManager σ) : DeviceManager (Logged σ) where
  connect := Logged.call .connect m.connect
  disconnect s := Logged.record .disconnect (m.disconnect s.state) s.calls
  deviceCount := Logged.call .deviceCount m.deviceCount
  deviceInfo i := Logged.call (.deviceInfo i) (m.deviceInfo i)
  hierarchy := Logged.call .hierarchy m.hierarchy
  latestValues es fs := Logged.call (.latestValues es fs) (m.latestValues es fs)
  createGroup name es := Logged.call (.createGroup name es) (m.createGroup name es)
  destroyGroup g := Logged.call (.destroyGroup g) (m.destroyGroup g)
  createFieldGroup name fs := Logged.call (.createFieldGroup name fs) (m.createFieldGroup name fs)
  destroyFieldGroup g := Logged.call (.destroyFieldGroup g) (m.destroyFieldGroup g)
  watchFields g f ms := Logged.call (.watchFields g f ms) (m.watchFields g f ms)
  resolveNames es := Logged.call (.resolveNames es) (m.resolveNames es)

end Telemetry
