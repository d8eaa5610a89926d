import Telemetry.Json.Basic
import Telemetry.Numeral
import Telemetry.Simulation.Reading

/-! Descriptions of simulated devices as JSON values. A record may also be given as the list of its
    fields in order. Lists and maps without an entry are left out when a description is written. -/

namespace Telemetry
namespace Simulation

/-! ### Reading -/

/-- The members that no later one of the same name hides. -/
def visible (ms : List (String × Json)) : List (String × Json) :=
  match ms with
  | [] => []
  | m :: ms => if ms.any fun n => n.1 == m.1 then visible ms else m :: visible ms

/-- The fields of a record: members of an object, or elements of a list without any left over. -/
def jsonFields? (names : List String) : Json → Option (List (String × Json))
  | .object ms => some ((visible ms).filter fun m => names.contains m.1)
  | .array xs => if names.length < xs.length then none else some (names.zip xs)
  | _ => none

def jsonText? : Json → Option String
  | .string s => some s
  | _ => none

def jsonOptionalText? : Json → Option (Option String)
  | .null => some none
  | .string s => some (some s)
  | _ => none

def jsonFlag? : Json → Option Bool
  | .bool b => some b
  | _ => none

/-- A whole number of 32 bits. -/
def jsonWord? : Json → Option UInt32
  | .int n => if 0 ≤ n ∧ n < UInt32.size then some (UInt32.ofNat n.toNat) else none
  | _ => none

/-- An integer that 64 bits with a sign do not hold is read as a double. -/
def jsonReading? : Json → Option FixedReading
  | .int n => some (if Numeral.fitsInt64 n then .int (Int64.ofInt n) else .double (Double.ofInt n))
  | .double x => some (.double x)
  | .string s => some (.text s)
  | _ => none

/-- What a description needs of JSON values. -/
def jsonFormat : DocumentFormat Json where
  list? v := match v with | .array xs => some xs | _ => none
  entries? v := match v with | .object ms => some (visible ms) | _ => none
  fields? := jsonFields?
  text? := jsonText?
  optionalText? := jsonOptionalText?
  flag? := jsonFlag?
  word? := jsonWord?
  reading? := jsonReading?

/-- The description that a JSON value is. -/
def ofJson? (v : Json) : Option Simulation := read? jsonFormat v

/-! ### Writing -/

/-- A text that may be absent. -/
def optionalTextJson : Option String → Json
  | none => .null
  | some s => .string s

def wordJson (n : UInt32) : Json := .int n.toNat

/-- A list as a field, if it has an element. -/
def listField {α : Type} (name : String) (f : α → Json) : List α → List (String × Json)
  | [] => []
  | xs => [(name, .array (xs.map f))]

/-- JSON has no numbers that are not finite. -/
def readingJson : FixedReading → Json
  | .int n => .int n.toInt
  | .double x => if x.isFinite then .double x else .null
  | .text s => .string s

/-- The fixed readings as a field, if there are any. -/
def valuesField (m : SortedMap FixedReading) : List (String × Json) :=
  if m.isEmpty then [] else [("values", .object (m.toList.map fun e => (e.1, readingJson e.2)))]

def subPartitionMembers (s : SimulatedSubPartition) : List (String × Json) :=
  [("id", wordJson s.id), ("compute_instance_id", wordJson s.computeInstanceId), ("profile", optionalTextJson s.profile)]

def partitionMembers (p : SimulatedPartition) : List (String × Json) :=
  [ ("id", wordJson p.id), ("instance_id", wordJson p.instanceId), ("profile", optionalTextJson p.profile),
    ("profile_id", wordJson p.profileId), ("slices", wordJson p.slices) ] ++
    listField "sub_partitions" (fun s => .object (subPartitionMembers s)) p.subPartitions

def deviceMembers (d : SimulatedDevice) : List (String × Json) :=
  [ ("uuid", .string d.uuid), ("model", .string d.model), ("supported", .bool d.supported),
    ("unavailable", .bool d.unavailable) ] ++
    listField "partitions" (fun p => .object (partitionMembers p)) d.partitions ++ valuesField d.values ++
    listField "not_supported" Json.string d.notSupported

/-- A description as a JSON value. -/
def toJson (sim : Simulation) : Json :=
  .object [("devices", .array (sim.devices.map fun d => .object (deviceMembers d)))]

end Simulation
end Telemetry
