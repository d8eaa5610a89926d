import Telemetry.Device.Entity

/-! What can go wrong in a call to the device manager. Only a lost connection ends a session. -/

namespace Telemetry

/-- Why a call to the device manager failed. -/
inductive DeviceError where
  | connectionLost (reason : String)
  | deviceUnavailable (index : UInt32) (reason : String)
  | unknownEntity (entity : Entity)
  | unknownGroup (id : UInt32)
  | unknownField (id : UInt16)
  | backend (reason : String)
  deriving DecidableEq, Repr

namespace DeviceError

def message : DeviceError → String
  | connectionLost reason => s!"Lost the connection to the device manager: {reason}"
  | deviceUnavailable index reason => s!"Device {index} could not be queried: {reason}"
  | unknownEntity entity => s!"Unknown entity {entity.text}"
  | unknownGroup id => s!"Unknown group {id}"
  | unknownField id => s!"Unknown field {id}"
  | backend reason => s!"Device manager error: {reason}"

/-- Whether no later call of the session can succeed. -/
def isFatal : DeviceError → Bool
  | connectionLost _ => true
  | _ => false

end DeviceError
end Telemetry
