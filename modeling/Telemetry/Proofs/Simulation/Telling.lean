import Telemetry.Proofs.Simulation.Places
import Telemetry.Proofs.Topology.Building
import Telemetry.Proofs.Topology.Naming

/-! What simulated devices tell. While they are connected, every reading of fields that there are succeeds for
    entities of the description, and the calls of a build are answered with what the description says. -/

namespace Telemetry
namespace Simulation
open Telemetry.Topology (answers askEach)

variable {sim : Simulation} {s : State} {e : Entity} {es : List Entity} {ids : List FieldId} {fields : List Field}

theorem whenConnected_of_connected {α : Type} (h : s.connected = true) (f : State → Except DeviceError α × State) :
    whenConnected f s = f s := if_pos h

theorem whenConnected_of_lost {α : Type} (h : s.connected = false) (f : State → Except DeviceError α × State) :
    whenConnected f s = (.error (.connectionLost "not connected"), s) :=
  if_neg (by rw [h]; exact Bool.false_ne_true)

/-! ### Readings -/

/-- What stands where the entity is located. -/
def placeOf? (sim : Simulation) (e : Entity) : Option Place := (sim.locate? e).bind sim.place?

theorem Stands.exists_placeOf? {l : Location} {p : Place} (h : Stands sim e l p) :
    ∃ l' p', sim.placeOf? e = some p' ∧ Stands sim e l' p' := by
  obtain ⟨l', p', hlocate, hplace, hstands⟩ := h.exists_locate?
  exact ⟨l', p', by rw [placeOf?, hlocate, Option.bind_some, hplace], hstands⟩

theorem Stands.isSome_placeOf? {l : Location} {p : Place} (h : Stands sim e l p) :
    (sim.placeOf? e).isSome := by
  obtain ⟨l', p', hplace, -⟩ := h.exists_placeOf?
  rw [hplace]
  rfl

/-- The values that are read of an entity. -/
def valuesAt (sim : Simulation) (fields : List Field) (tick : UInt64) (e : Entity) : List FieldValue :=
  fields.map fun f =>
    { entity := e, field := f.id, type := f.type, value := valueAt ((sim.placeOf? e).getD default) e f tick }

theorem findFields_of_known (h : ∀ id ∈ ids, (Field.byId? id).isSome) :
    ∃ fields, findFields ids = .ok fields ∧ fields.length = ids.length := by
  induction ids with
  | nil => exact ⟨[], rfl, rfl⟩
  | cons id ids ih =>
    obtain ⟨hid, hids⟩ := List.forall_mem_cons.mp h
    obtain ⟨f, hf⟩ := Option.isSome_iff_exists.mp hid
    obtain ⟨fields, hfields, hlength⟩ := ih hids
    refine ⟨f :: fields, ?_, congrArg (· + 1) hlength⟩
    rw [findFields, hf, hfields]
    rfl

theorem valuesOfAll_of_placed (h : ∀ e ∈ es, (sim.placeOf? e).isSome) (tick : UInt64) :
    valuesOfAll sim fields tick es = .ok (es.flatMap (sim.valuesAt fields tick)) := by
  induction es with
  | nil => rfl
  | cons e es ih =>
    obtain ⟨he, hes⟩ := List.forall_mem_cons.mp h
    obtain ⟨p, hp⟩ := Option.isSome_iff_exists.mp he
    have hvalues : valuesOf sim e fields tick = .ok (sim.valuesAt fields tick e) := by
      rw [valuesOf, ← placeOf?, hp, valuesAt, hp]
      rfl
    rw [valuesOfAll, hvalues, ih hes]
    rfl

theorem latestValues_of_placed (hconnected : s.connected = true) (hfields : findFields ids = .ok fields)
    (h : ∀ e ∈ es, (sim.placeOf? e).isSome) :
    sim.latestValues es ids s = (.ok (es.flatMap (sim.valuesAt fields s.reads)), { s with reads := s.reads + 1 }) := by
  have hreading : sim.reading es ids s.reads = .ok (es.flatMap (sim.valuesAt fields s.reads)) := by
    rw [reading, hfields]
    exact valuesOfAll_of_placed h s.reads
  rw [latestValues, whenConnected_of_connected hconnected, hreading]

/-! ### Names -/

/-- The name that is told of what stands at a place; sentinels are no names. -/
def Place.told? (p : Place) : Option String := p.name?.filter fun name => !Sentinel.isString name

/-- The name that is told of an entity. -/
def toldOf? (sim : Simulation) (e : Entity) : Option String := (sim.placeOf? e).bind Place.told?

/-- The field that holds names. -/
def nameField : Field := ⟨Field.deviceName, "DCGM_FI_DEV_NAME", .string⟩

theorem namesAmong_valuesAt (h : (sim.placeOf? e).isSome) (tick : UInt64) :
    namesAmong (sim.valuesAt [nameField] tick e) = ((sim.toldOf? e).map fun name => (e, name)).toList := by
  obtain ⟨p, hp⟩ := Option.isSome_iff_exists.mp h
  have hvalue : valueAt p e nameField tick = .string (p.name?.getD (Sentinel.string .blank)) := if_pos rfl
  have hblank : Sentinel.isString (Sentinel.string .blank) = true := by decide
  rw [valuesAt, List.map_singleton, hp, Option.getD_some, hvalue, namesAmong, List.filterMap_cons, List.filterMap_nil,
    toldOf?, hp, Option.bind_some, Place.told?]
  cases p.name? with
  | none => simp [hblank]
  | some name => cases hsentinel : Sentinel.isString name <;> simp [Option.filter, hsentinel]

theorem namesAmong_flatMap (h : ∀ e ∈ es, (sim.placeOf? e).isSome) (tick : UInt64) :
    namesAmong (es.flatMap (sim.valuesAt [nameField] tick)) =
      es.filterMap fun e => (sim.toldOf? e).map fun name => (e, name) := by
  have hflatMap : namesAmong (es.flatMap (sim.valuesAt [nameField] tick)) =
      es.flatMap fun e => namesAmong (sim.valuesAt [nameField] tick e) := List.filterMap_flatMap
  rw [hflatMap, List.filterMap_eq_flatMap_toList]
  exact List.flatMap_congr fun e he => namesAmong_valuesAt (h e he) tick

/-- The names of entities that stand somewhere are told without fault. -/
theorem resolveNames_of_placed (hconnected : s.connected = true) (h : ∀ e ∈ es, (sim.placeOf? e).isSome) :
    (sim.manager.resolveNames es s).1 = .ok (es.filterMap fun e => (sim.toldOf? e).map fun name => (e, name)) := by
  show (namesByReading sim.latestValues es s).1 = _
  rw [namesByReading]
  split
  · rename_i hempty
    rw [List.isEmpty_iff.mp hempty]
    rfl
  · have hfields : findFields [Field.deviceName] = .ok [nameField] := rfl
    rw [Action.bind_apply, latestValues_of_placed hconnected hfields h, ← namesAmong_flatMap h s.reads]
    rfl

/-! ### The calls of a build -/

theorem askEach_manager (hconnected : s.connected = true) (is : List Nat) :
    askEach sim.manager.deviceInfo is s = (is.map fun i => sim.deviceInfo (UInt32.ofNat i), s) := by
  induction is with
  | nil => rfl
  | cons i is ih =>
    have hcall : sim.manager.deviceInfo (UInt32.ofNat i) s = (sim.deviceInfo (UInt32.ofNat i), s) :=
      whenConnected_of_connected hconnected _
    rw [askEach, hcall]
    dsimp only
    rw [ih]
    rfl

/-- The entities of the listing stand somewhere. -/
theorem placed_profiled (sim : Simulation) : ∀ e ∈ Forest.profiled sim.hierarchy, (sim.placeOf? e).isSome := by
  intro e he
  rcases List.mem_append.mp he with he | he
  · obtain ⟨id, hid, rfl⟩ := List.mem_map.mp he
    obtain ⟨entry, hentry, rfl⟩ := List.mem_map.mp hid
    obtain ⟨l, p, hstands⟩ := exists_stands_of_under_device hentry
    exact hstands.isSome_placeOf?
  · obtain ⟨id, hid, rfl⟩ := List.mem_map.mp he
    obtain ⟨entry, hentry, rfl⟩ := List.mem_map.mp hid
    obtain ⟨l, p, hstands⟩ := exists_stands_of_under_partition hentry
    exact hstands.isSome_placeOf?

/-- The answers of connected devices are what the description says. -/
structure Tells (sim : Simulation) (a : Topology.Answers) : Prop where
  count : a.count = .ok (UInt32.ofNat sim.devices.length)
  infos : a.infos = (List.range (UInt32.ofNat sim.devices.length).toNat).map fun i => sim.deviceInfo (UInt32.ofNat i)
  listing : a.listing = .ok sim.hierarchy
  names : a.names = .ok ((Forest.profiled sim.hierarchy).filterMap fun e => (sim.toldOf? e).map fun name => (e, name))

theorem tells_answers (hconnected : s.connected = true) : Tells sim (answers sim.manager s) := by
  have hcount : sim.manager.deviceCount s = (.ok (UInt32.ofNat sim.devices.length), s) :=
    whenConnected_of_connected hconnected _
  have hlisting : sim.manager.hierarchy s = (.ok sim.hierarchy, s) := whenConnected_of_connected hconnected _
  have hanswers : answers sim.manager s =
      { count := .ok (UInt32.ofNat sim.devices.length)
        infos := (List.range (UInt32.ofNat sim.devices.length).toNat).map fun i => sim.deviceInfo (UInt32.ofNat i)
        listing := .ok sim.hierarchy
        names := (sim.manager.resolveNames (Forest.profiled sim.hierarchy) s).1 } := by
    rw [answers, hcount]
    dsimp only
    rw [askEach_manager hconnected, hlisting]
    rfl
  rw [hanswers]
  exact ⟨rfl, rfl, rfl, resolveNames_of_placed hconnected sim.placed_profiled⟩

/-- A device with two partitions, one of which is partitioned itself, and a device that cannot be queried. -/
def partlyUnavailable : Simulation :=
  { devices :=
      [ { uuid := "GPU-a"
          partitions :=
            [ { id := 5, instanceId := 1, profile := some "1g.5gb"
                subPartitions :=
                  [{ id := 5, computeInstanceId := 2, profile := some (Sentinel.string .notFound) }] },
              { id := 3, instanceId := 2 }] },
        { uuid := "GPU-b", unavailable := true, partitions := [{ id := 4, instanceId := 1 }] } ] }

end Simulation
end Telemetry
