import Telemetry.Simulation.Basic

/-! Descriptions of simulated devices read from documents. What a document has as texts, numbers, lists
    and records is left to its format; here stands which fields there are, which of them may be missing,
    and what they are then. -/

namespace Telemetry

/-- What a description needs of the values in `ν` of a document. -/
structure DocumentFormat (ν : Type) where
  /-- The elements of a list. -/
  list? : ν → Option (List ν)
  /-- The entries of a map from texts, the last of each key. -/
  entries? : ν → Option (List (String × ν))
  /-- The fields of a record that are among the names given, each at most once; other fields are
      passed over. -/
  fields? : List String → ν → Option (List (String × ν))
  text? : ν → Option String
  /-- A text that may be absent. -/
  optionalText? : ν → Option (Option String)
  flag? : ν → Option Bool
  word? : ν → Option UInt32
  /-- An integer, a double or a text. -/
  reading? : ν → Option FixedReading

namespace Simulation

variable {ν α : Type} (F : DocumentFormat ν)

/-- A field that must be there. -/
def required (read : ν → Option α) (name : String) (fs : List (String × ν)) : Option α :=
  (SortedMap.lookup name fs).bind read

/-- A field with a value for its absence. -/
def optional (read : ν → Option α) (absent : α) (name : String) (fs : List (String × ν)) : Option α :=
  match SortedMap.lookup name fs with
  | none => some absent
  | some v => read v

def readList (read : ν → Option α) (v : ν) : Option (List α) := do
  let vs ← F.list? v
  vs.mapM read

/-- The fixed readings by name. -/
def readReadings (v : ν) : Option (SortedMap FixedReading) := do
  let es ← F.entries? v
  let rs ← es.mapM fun (name, v) => (F.reading? v).map (name, ·)
  pure (SortedMap.ofList rs)

def subPartitionFields : List String := ["id", "compute_instance_id", "profile"]

def readSubPartition (v : ν) : Option SimulatedSubPartition := do
  let fs ← F.fields? subPartitionFields v
  let id ← required F.word? "id" fs
  let computeInstanceId ← required F.word? "compute_instance_id" fs
  let profile ← optional F.optionalText? none "profile" fs
  pure { id, computeInstanceId, profile }

def partitionFields : List String := ["id", "instance_id", "profile", "profile_id", "slices", "sub_partitions"]

def readPartition (v : ν) : Option SimulatedPartition := do
  let fs ← F.fields? partitionFields v
  let id ← required F.word? "id" fs
  let instanceId ← required F.word? "instance_id" fs
  let profile ← optional F.optionalText? none "profile" fs
  let profileId ← optional F.word? 0 "profile_id" fs
  let slices ← optional F.word? 1 "slices" fs
  let subPartitions ← optional (readList F (readSubPartition F)) [] "sub_partitions" fs
  pure { id, instanceId, profile, profileId, slices, subPartitions }

def deviceFields : List String :=
  ["uuid", "model", "supported", "unavailable", "partitions", "values", "not_supported"]

def readDevice (v : ν) : Option SimulatedDevice := do
  let fs ← F.fields? deviceFields v
  let uuid ← required F.text? "uuid" fs
  let plain : SimulatedDevice := { uuid }
  let model ← optional F.text? plain.model "model" fs
  let supported ← optional F.flag? true "supported" fs
  let unavailable ← optional F.flag? false "unavailable" fs
  let partitions ← optional (readList F (readPartition F)) [] "partitions" fs
  let values ← optional (readReadings F) SortedMap.empty "values" fs
  let notSupported ← optional (readList F F.text?) [] "not_supported" fs
  pure { uuid, model, supported, unavailable, partitions, values, notSupported }

/-- The description that a document is. -/
def read? (v : ν) : Option Simulation := do
  let fs ← F.fields? ["devices"] v
  let devices ← required (readList F (readDevice F)) "devices" fs
  pure { devices }

end Simulation
end Telemetry
