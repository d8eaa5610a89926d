import Telemetry.Proofs.Topology.Linking
import Telemetry.Simulation.Manager

/-! The places of described entities. The index of a description has its devices, their partitions and the
    partitions of these, each with its location, and nothing else; the listing has the same partitions in the order
    of the description, each behind its parent. -/

namespace Telemetry
namespace Simulation

section Indexed
variable {α : Type} {xs : List α}

theorem getElem?_indexed {i : Nat} {x : α} (h : xs[i]? = some x) : (indexed xs)[i]? = some (i, x) :=
  List.getElem?_zip_eq_some.mpr ⟨List.getElem?_range (List.getElem?_eq_some_iff.mp h).1, h⟩

theorem mem_indexed {i : Nat} {x : α} : (i, x) ∈ indexed xs ↔ xs[i]? = some x := by
  rw [indexed, List.mem_iff_getElem?]
  constructor
  · rintro ⟨j, hj⟩
    obtain ⟨hi, hx⟩ := List.getElem?_zip_eq_some.mp hj
    obtain ⟨hlt, rfl⟩ := List.getElem?_eq_some_iff.mp hi
    rw [List.getElem_range]
    exact hx
  · intro hx
    exact ⟨i, getElem?_indexed hx⟩

theorem map_snd_indexed (xs : List α) : (indexed xs).map Prod.snd = xs :=
  List.map_snd_zip (Nat.le_of_eq List.length_range.symm)

theorem map_fst_indexed (xs : List α) : (indexed xs).map Prod.fst = List.range xs.length :=
  List.map_fst_zip (Nat.le_of_eq List.length_range)

theorem exists_indexed_append (xs : List α) (x : α) (ys : List α) :
    ∃ rest, indexed (xs ++ x :: ys) = indexed xs ++ (xs.length, x) :: rest := by
  have hzip : ((List.range xs.length).zip xs) = indexed xs := rfl
  rw [indexed, List.length_append, List.length_cons, List.range_add, List.zip_append List.length_range, hzip,
    List.range_succ_eq_map, List.map_cons, List.zip_cons_cons]
  exact ⟨_, rfl⟩

theorem map_range_length {β : Type} {f : Nat → β} {g : Nat × α → β} (h : ∀ i x, xs[i]? = some x → f i = g (i, x)) :
    (List.range xs.length).map f = (indexed xs).map g := by
  rw [← map_fst_indexed, List.map_map]
  exact List.map_congr_left fun x hx => h x.1 x.2 (mem_indexed.mp hx)

theorem flatMap_indexed {β : Type} (xs : List α) (f : α → List β) :
    ((indexed xs).flatMap fun x => f x.2) = xs.flatMap f := by
  rw [← List.flatMap_map, map_snd_indexed]

end Indexed

variable {sim : Simulation} {e : Entity} {l : Location} {p : Place}

/-! ### Locations -/

/-- An entity of the description, with its location and with what stands there. -/
inductive Stands (sim : Simulation) : Entity → Location → Place → Prop
  | device {d : Nat} {x : SimulatedDevice} (hd : sim.devices[d]? = some x) :
    Stands sim (Entity.device (UInt32.ofNat d)) { device := d } { device := x }
  | partition {d p : Nat} {x : SimulatedDevice} {y : SimulatedPartition} (hd : sim.devices[d]? = some x)
    (hp : x.partitions[p]? = some y) :
    Stands sim (Entity.partition y.id) { device := d, partition := some p } { device := x, partition := some y }
  | subPartition {d p s : Nat} {x : SimulatedDevice} {y : SimulatedPartition} {z : SimulatedSubPartition}
    (hd : sim.devices[d]? = some x) (hp : x.partitions[p]? = some y) (hs : y.subPartitions[s]? = some z) :
    Stands sim (Entity.subPartition z.id) { device := d, partition := some p, subPartition := some s }
      { device := x, partition := some y, subPartition := some z }

theorem Stands.place?_eq (h : Stands sim e l p) : sim.place? l = some p := by
  cases h with
  | device hd => simp [place?, hd]
  | partition hd hp => simp [place?, hd, hp]
  | subPartition hd hp hs => simp [place?, hd, hp, hs]

theorem mem_index_iff : (e, l) ∈ sim.index ↔ ∃ p, Stands sim e l p := by
  simp only [index, deviceIndex, partitionIndex, List.mem_flatMap, List.mem_cons, List.mem_map, Prod.exists,
    mem_indexed, Prod.mk.injEq]
  constructor
  · rintro ⟨d, x, hd, ⟨rfl, rfl⟩ | ⟨p, y, hp, ⟨rfl, rfl⟩ | ⟨s, z, hs, rfl, rfl⟩⟩⟩
    · exact ⟨_, .device hd⟩
    · exact ⟨_, .partition hd hp⟩
    · exact ⟨_, .subPartition hd hp hs⟩
  · rintro ⟨_, hd | ⟨hd, hp⟩ | ⟨hd, hp, hs⟩⟩
    · exact ⟨_, _, hd, .inl ⟨rfl, rfl⟩⟩
    · exact ⟨_, _, hd, .inr ⟨_, _, hp, .inl ⟨rfl, rfl⟩⟩⟩
    · exact ⟨_, _, hd, .inr ⟨_, _, hp, .inr ⟨_, _, hs, rfl, rfl⟩⟩⟩

/-- An entity is located where it, or another of its number, stands. -/
theorem stands_of_locate? (h : sim.locate? e = some l) : ∃ p, Stands sim e l p := by
  obtain ⟨⟨e', l'⟩, hfind, rfl⟩ := Option.map_eq_some_iff.mp h
  have hmem := List.mem_reverse.mp (List.mem_of_find?_eq_some hfind)
  obtain rfl : e' = e := by simpa using List.find?_some hfind
  exact mem_index_iff.mp hmem

/-- What stands somewhere can be located. -/
theorem Stands.exists_locate? (h : Stands sim e l p) :
    ∃ l' p', sim.locate? e = some l' ∧ sim.place? l' = some p' ∧ Stands sim e l' p' := by
  have hsome : (sim.locate? e).isSome := by
    rw [locate?, Option.isSome_map, List.find?_isSome]
    exact ⟨(e, l), List.mem_reverse.mpr (mem_index_iff.mpr ⟨p, h⟩), by simp⟩
  obtain ⟨l', hl'⟩ := Option.isSome_iff_exists.mp hsome
  obtain ⟨p', hp'⟩ := stands_of_locate? hl'
  exact ⟨l', p', hl', hp'.place?_eq, hp'⟩

/-! ### The listing -/

/-- What is told of a partition. -/
def partitionInfo (i : UInt32) (x : SimulatedDevice) (y : SimulatedPartition) : PartitionInfo :=
  { deviceUuid := x.uuid, deviceIndex := i, instanceId := y.instanceId, profileId := y.profileId, slices := y.slices }

/-- The entry of a partition. -/
def partitionEntry (i : UInt32) (x : SimulatedDevice) (y : SimulatedPartition) : HierarchyEntry :=
  { parent := Entity.device i, entity := Entity.partition y.id, info := partitionInfo i x y }

/-- The entry of a partition of a partition. -/
def subPartitionEntry (i : UInt32) (x : SimulatedDevice) (y : SimulatedPartition) (z : SimulatedSubPartition) :
    HierarchyEntry :=
  { parent := Entity.partition y.id
    entity := Entity.subPartition z.id
    info := { partitionInfo i x y with computeInstanceId := z.computeInstanceId } }

/-- The numbers of all partitions. -/
def partitionIds (sim : Simulation) : List UInt32 :=
  sim.devices.flatMap fun x => x.partitions.map SimulatedPartition.id

/-- The numbers of all partitions of partitions. -/
def subPartitionIds (sim : Simulation) : List UInt32 :=
  sim.devices.flatMap fun x => x.partitions.flatMap fun y => y.subPartitions.map SimulatedSubPartition.id

theorem partitionListing_eq (i : UInt32) (x : SimulatedDevice) (y : SimulatedPartition) :
    partitionListing i x y = partitionEntry i x y :: y.subPartitions.map (subPartitionEntry i x y) := rfl

theorem under_flatMap {α : Type} (cls : EntityClass) (xs : List α) (f : α → List HierarchyEntry) :
    under cls (xs.flatMap f) = xs.flatMap fun x => under cls (f x) := List.filter_flatMap

theorem under_device_partitionListing (i : UInt32) (x : SimulatedDevice) (y : SimulatedPartition) :
    under .device (partitionListing i x y) = [partitionEntry i x y] := by
  have hsub : under .device (y.subPartitions.map (subPartitionEntry i x y)) = [] :=
    List.filter_eq_nil_iff.mpr fun e he => by
      obtain ⟨z, -, rfl⟩ := List.mem_map.mp he
      simp [subPartitionEntry, Entity.partition]
  rw [partitionListing_eq]
  exact congrArg (partitionEntry i x y :: ·) hsub

theorem under_partition_partitionListing (i : UInt32) (x : SimulatedDevice) (y : SimulatedPartition) :
    under .partition (partitionListing i x y) = y.subPartitions.map (subPartitionEntry i x y) := by
  have hsub : under .partition (y.subPartitions.map (subPartitionEntry i x y)) =
      y.subPartitions.map (subPartitionEntry i x y) :=
    List.filter_eq_self.mpr fun e he => by
      obtain ⟨z, -, rfl⟩ := List.mem_map.mp he
      simp [subPartitionEntry, Entity.partition]
  rw [partitionListing_eq]
  exact hsub

theorem under_device_hierarchy (sim : Simulation) :
    under .device sim.hierarchy =
      (indexed sim.devices).flatMap fun x => x.2.partitions.map (partitionEntry (UInt32.ofNat x.1) x.2) := by
  simp only [hierarchy, under_flatMap, under_device_partitionListing, List.map_eq_flatMap]

theorem under_partition_hierarchy (sim : Simulation) :
    under .partition sim.hierarchy =
      (indexed sim.devices).flatMap fun x =>
        x.2.partitions.flatMap fun y => y.subPartitions.map (subPartitionEntry (UInt32.ofNat x.1) x.2 y) := by
  simp only [hierarchy, under_flatMap, under_partition_partitionListing]

theorem partitionEntry_mem {i : Nat} {x : SimulatedDevice} {y : SimulatedPartition} (hx : sim.devices[i]? = some x)
    (hy : y ∈ x.partitions) : partitionEntry (UInt32.ofNat i) x y ∈ under .device sim.hierarchy := by
  rw [under_device_hierarchy]
  exact List.mem_flatMap.mpr ⟨(i, x), mem_indexed.mpr hx, List.mem_map_of_mem hy⟩

theorem subPartitionEntry_mem {i : Nat} {x : SimulatedDevice} {y : SimulatedPartition} {z : SimulatedSubPartition}
    (hx : sim.devices[i]? = some x) (hy : y ∈ x.partitions) (hz : z ∈ y.subPartitions) :
    subPartitionEntry (UInt32.ofNat i) x y z ∈ under .partition sim.hierarchy := by
  rw [under_partition_hierarchy]
  exact List.mem_flatMap.mpr ⟨(i, x), mem_indexed.mpr hx, List.mem_flatMap.mpr ⟨y, hy, List.mem_map_of_mem hz⟩⟩

theorem idsUnder_device_hierarchy (sim : Simulation) : idsUnder .device sim.hierarchy = sim.partitionIds := by
  rw [idsUnder, under_device_hierarchy, List.map_flatMap]
  simp only [List.map_map]
  exact flatMap_indexed sim.devices fun x => x.partitions.map SimulatedPartition.id

theorem idsUnder_partition_hierarchy (sim : Simulation) : idsUnder .partition sim.hierarchy = sim.subPartitionIds := by
  rw [idsUnder, under_partition_hierarchy, List.map_flatMap]
  simp only [List.map_flatMap, List.map_map]
  exact flatMap_indexed sim.devices fun x => x.partitions.flatMap fun y => y.subPartitions.map SimulatedSubPartition.id

/-- What is listed under devices stands somewhere. -/
theorem exists_stands_of_under_device {entry : HierarchyEntry} (h : entry ∈ under .device sim.hierarchy) :
    ∃ l p, Stands sim (Entity.partition entry.entity.id) l p := by
  rw [under_device_hierarchy] at h
  obtain ⟨⟨d, x⟩, hd, h⟩ := List.mem_flatMap.mp h
  obtain ⟨y, hy, rfl⟩ := List.mem_map.mp h
  obtain ⟨p, hp⟩ := List.mem_iff_getElem?.mp hy
  exact ⟨_, _, .partition (mem_indexed.mp hd) hp⟩

theorem exists_stands_of_under_partition {entry : HierarchyEntry} (h : entry ∈ under .partition sim.hierarchy) :
    ∃ l p, Stands sim (Entity.subPartition entry.entity.id) l p := by
  rw [under_partition_hierarchy] at h
  obtain ⟨⟨d, x⟩, hd, h⟩ := List.mem_flatMap.mp h
  obtain ⟨y, hy, h⟩ := List.mem_flatMap.mp h
  obtain ⟨z, hz, rfl⟩ := List.mem_map.mp h
  obtain ⟨p, hp⟩ := List.mem_iff_getElem?.mp hy
  obtain ⟨s, hs⟩ := List.mem_iff_getElem?.mp hz
  exact ⟨_, _, .subPartition (mem_indexed.mp hd) hp hs⟩

end Simulation
end Telemetry
