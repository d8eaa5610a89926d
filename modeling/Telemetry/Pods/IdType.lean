/-! How a pod listing names whole devices: by their identities or by the names of their device files. -/

namespace Telemetry

/-- What the devices of containers are matched by. -/
inductive IdType where
  | uid
  | deviceName
  deriving DecidableEq, Repr, Inhabited

namespace IdType

def all : List IdType := [uid, deviceName]

def name : IdType → String
  | uid => "uid"
  | deviceName => "device-name"

/-- The type with this name. -/
def ofName? (s : String) : Option IdType := all.find? fun t => t.name == s

theorem ofName?_name (t : IdType) : ofName? t.name = some t := by cases t <;> decide

end IdType
end Telemetry
