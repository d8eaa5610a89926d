/-! The entities that a device manager knows: devices, their partitions and the partitions' own
    partitions, each by its class and a number within the class. -/

namespace Telemetry

/-- The classes of entities. -/
inductive EntityClass where
  | unclassified
  | device
  | vgpu
  | switch
  | partition
  | subPartition
  deriving DecidableEq, Repr, Inhabited

namespace EntityClass

def all : List EntityClass := [unclassified, device, vgpu, switch, partition, subPartition]

def name : EntityClass → String
  | unclassified => "none"
  | device => "device"
  | vgpu => "vgpu"
  | switch => "switch"
  | partition => "partition"
  | subPartition => "sub_partition"

/-- The class with this name. -/
def ofName? (s : String) : Option EntityClass := all.find? fun c => c.name == s

theorem ofName?_name (c : EntityClass) : ofName? c.name = some c := by cases c <;> decide

end EntityClass

/-- An entity. -/
structure Entity where
  cls : EntityClass
  id : UInt32
  deriving DecidableEq, Repr, Inhabited

namespace Entity

def device (id : UInt32) : Entity := ⟨.device, id⟩

def partition (id : UInt32) : Entity := ⟨.partition, id⟩

def subPartition (id : UInt32) : Entity := ⟨.subPartition, id⟩

/-- Class and number, as messages name an entity. -/
def text (e : Entity) : String := s!"{e.cls.name} {e.id}"

end Entity
end Telemetry
