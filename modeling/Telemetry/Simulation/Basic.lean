import Telemetry.Device.Manager
import Telemetry.SortedMap

/-! Descriptions of simulated devices: what each of them is, how it is partitioned, and which of its
    readings are fixed or missing. -/

namespace Telemetry

/-- A reading that a description fixes. -/
inductive FixedReading where
  | int (n : Int64)
  | double (x : Double)
  | text (s : String)
  deriving DecidableEq, Repr, Inhabited

/-- A described partition of a partition. -/
structure SimulatedSubPartition where
  id : UInt32
  computeInstanceId : UInt32
  /-- The name of the profile, if it has one. -/
  profile : Option String := none
  deriving DecidableEq, Repr, Inhabited

/-- A described partition. -/
structure SimulatedPartition where
  id : UInt32
  instanceId : UInt32
  /-- The name of the profile, if it has one. -/
  profile : Option String := none
  profileId : UInt32 := 0
  slices : UInt32 := 1
  subPartitions : List SimulatedSubPartition := []
  deriving DecidableEq, Repr, Inhabited

/-- A described device. -/
structure SimulatedDevice where
  uuid : String
  model : String := "NVIDIA A100-SXM4-40GB"
  supported : Bool := true
  /-- Whether asking what the device is fails. -/
  unavailable : Bool := false
  partitions : List SimulatedPartition := []
  /-- The fixed readings, by the names of fields. -/
  values : SortedMap FixedReading := SortedMap.empty
  /-- The names of fields that the device does not support. -/
  notSupported : List String := []
  deriving DecidableEq, Inhabited

/-- A description of devices. -/
structure Simulation where
  devices : List SimulatedDevice
  deriving DecidableEq, Inhabited

namespace Simulation

/-- Two plain devices. -/
def standard : Simulation :=
  { devices :=
      [ { uuid := "GPU-00000000-0000-0000-0000-000000000000" },
        { uuid := "GPU-00000000-0000-0000-0000-000000000001" } ] }

/-! ### Where entities are -/

/-- Where an entity stands in a description. -/
structure Location where
  device : Nat
  partition : Option Nat := none
  subPartition : Option Nat := none
  deriving DecidableEq, Repr, Inhabited

/-- The elements of a list, each behind its place. -/
def indexed {α : Type} (xs : List α) : List (Nat × α) := (List.range xs.length).zip xs

/-- The entities of a partition of the device at place `d`, with their locations. -/
def partitionIndex (d p : Nat) (x : SimulatedPartition) : List (Entity × Location) :=
  (Entity.partition x.id, { device := d, partition := some p }) ::
    (indexed x.subPartitions).map fun (s, y) =>
      (Entity.subPartition y.id, { device := d, partition := some p, subPartition := some s })

/-- The entities of the device at place `d`, with their locations. -/
def deviceIndex (d : Nat) (x : SimulatedDevice) : List (Entity × Location) :=
  (Entity.device (UInt32.ofNat d), { device := d }) ::
    (indexed x.partitions).flatMap fun (p, y) => partitionIndex d p y

/-- All entities with their locations, in the order of the description. -/
def index (sim : Simulation) : List (Entity × Location) :=
  (indexed sim.devices).flatMap fun (d, x) => deviceIndex d x

/-- Where an entity is; of two with one number, the one described last counts. -/
def locate? (sim : Simulation) (e : Entity) : Option Location :=
  (sim.index.reverse.find? fun x => x.1 == e).map Prod.snd

/-- What is at a location: a device, and what of it is meant. -/
structure Place where
  device : SimulatedDevice
  partition : Option SimulatedPartition := none
  subPartition : Option SimulatedSubPartition := none
  deriving DecidableEq, Inhabited

/-- What is at a location, if the description has it. -/
def place? (sim : Simulation) (l : Location) : Option Place := do
  let device ← sim.devices[l.device]?
  match l.partition with
  | none => pure { device }
  | some p =>
    let partition ← device.partitions[p]?
    match l.subPartition with
    | none => pure { device, partition := some partition }
    | some s =>
      let sub ← partition.subPartitions[s]?
      pure { device, partition := some partition, subPartition := some sub }

/-- The name of what is at a place: the model of a device, else the name of the profile. -/
def Place.name? (p : Place) : Option String :=
  match p.partition, p.subPartition with
  | _, some s => s.profile
  | some x, none => x.profile
  | none, none => some p.device.model

end Simulation
end Telemetry
