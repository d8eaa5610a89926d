import Telemetry.Proofs.Topology.Building

/-! The integrity of a topology that is built. Its partitions and the partitions of these are the entries
    of the listing under devices and under partitions; whichever way one goes from parents to children,
    back, or from a number to what has it, one finds what the listing says and nothing else. -/

namespace Telemetry
namespace Forest

/-- Every place that is kept is one of the list that it is for. -/
structure InRange (f : Forest) : Prop where
  ofDevice : ∀ d ∈ f.devices, ∀ slot ∈ d.partitions, slot < f.partitions.length
  ofPartition : ∀ p ∈ f.partitions, ∀ slot ∈ p.subPartitions, slot < f.subPartitions.length
  device : ∀ p ∈ f.partitions, p.device.toNat < f.devices.length
  partition : ∀ s ∈ f.subPartitions, s.partition < f.partitions.length
  partitionSlots : ∀ id slot, f.partitionSlots.lookup id = some slot → slot < f.partitions.length
  subPartitionSlots : ∀ id slot, f.subPartitionSlots.lookup id = some slot → slot < f.subPartitions.length

namespace Links
variable {infos : List DeviceInfo} {es : List HierarchyEntry} {f : Forest} {i : Nat}

theorem places_ofDevice (h : Links infos es f) {d : DeviceNode} (hd : f.devices[i]? = some d) :
    d.partitions = places (fun p => p.device.toNat == i) f.partitions := by
  rw [h.ofDevice i d.partitions (by rw [List.getElem?_map, hd, Option.map_some]), places_map]

theorem places_ofPartition (h : Links infos es f) {p : PartitionNode} (hp : f.partitions[i]? = some p) :
    p.subPartitions = places (fun s => s.partition == i) f.subPartitions := by
  rw [h.ofPartition i p.subPartitions (by rw [List.getElem?_map, hp, Option.map_some]), places_map]

theorem inRange (h : Links infos es f) : f.InRange where
  ofDevice := by
    intro d hd slot hslot
    obtain ⟨i, hi⟩ := List.mem_iff_getElem?.mp hd
    rw [h.places_ofDevice hi] at hslot
    exact lt_length_of_mem_places hslot
  ofPartition := by
    intro p hp slot hslot
    obtain ⟨i, hi⟩ := List.mem_iff_getElem?.mp hp
    rw [h.places_ofPartition hi] at hslot
    exact lt_length_of_mem_places hslot
  device := by
    intro p hp
    rw [h.length_devices]
    exact h.parents p.device (List.mem_map_of_mem hp)
  partition := h.parent_lt
  partitionSlots := by
    intro id slot hslot
    have hlt := h.partitionSlots.lt_length hslot
    rwa [List.length_map] at hlt
  subPartitionSlots := by
    intro id slot hslot
    have hlt := h.subPartitionSlots.lt_length hslot
    rwa [List.length_map] at hlt

/-! ### Children -/

theorem partitionsOf_eq (h : Links infos es f) {d : DeviceNode} (hd : f.devices[i]? = some d) :
    f.partitionsOf d = f.partitions.filter fun p => p.device.toNat == i := by
  rw [Forest.partitionsOf, h.places_ofDevice hd, filterMap_places]

theorem subPartitionsOf_eq (h : Links infos es f) {p : PartitionNode} (hp : f.partitions[i]? = some p) :
    f.subPartitionsOf p = f.subPartitions.filter fun s => s.partition == i := by
  rw [Forest.subPartitionsOf, h.places_ofPartition hp, filterMap_places]

/-- The partitions device by device are all partitions divided by the indices of their devices. -/
theorem flatMap_partitionsOf (h : Links infos es f) :
    f.devices.flatMap f.partitionsOf =
      (List.range infos.length).flatMap fun i => f.partitions.filter fun p => p.device.toNat = i := by
  have hmap : f.devices.map f.partitionsOf =
      (List.range infos.length).map fun i => f.partitions.filter fun p => p.device.toNat = i := by
    refine List.ext_getElem? fun i => ?_
    rw [List.getElem?_map, List.getElem?_map]
    cases hd : f.devices[i]? with
    | none =>
      have hi : infos.length ≤ i := by
        rw [← h.length_devices]
        exact List.getElem?_eq_none_iff.mp hd
      rw [List.getElem?_eq_none (by rwa [List.length_range])]
      rfl
    | some d =>
      have hi : i < infos.length := by
        rw [← h.length_devices]
        exact (List.getElem?_eq_some_iff.mp hd).1
      rw [List.getElem?_range hi, Option.map_some, Option.map_some, h.partitionsOf_eq hd]
      rfl
  rw [List.flatMap_def, hmap, ← List.flatMap_def]

theorem perm_partitionsOf (h : Links infos es f) : (f.devices.flatMap f.partitionsOf).Perm f.partitions := by
  rw [h.flatMap_partitionsOf]
  refine perm_flatMap_filter List.nodup_range fun p hp => ?_
  rw [List.mem_range]
  exact h.parents p.device (List.mem_map_of_mem hp)

theorem pairwise_partitionsOf (h : Links infos es f) :
    (f.devices.flatMap f.partitionsOf).Pairwise fun p q => p.device ≤ q.device := by
  rw [h.flatMap_partitionsOf, List.pairwise_flatMap]
  constructor
  · intro i _
    refine List.pairwise_of_forall_mem_list fun p hp q hq => ?_
    have hpi := (List.mem_filter.mp hp).2
    have hqi := (List.mem_filter.mp hq).2
    simp only [decide_eq_true_eq] at hpi hqi
    exact UInt32.le_iff_toNat_le.mpr (by omega)
  · refine List.pairwise_lt_range.imp fun {i j} hij p hp q hq => ?_
    have hpi := (List.mem_filter.mp hp).2
    have hqj := (List.mem_filter.mp hq).2
    simp only [decide_eq_true_eq] at hpi hqj
    exact UInt32.le_iff_toNat_le.mpr (by omega)

/-! ### What has a number -/

theorem partition?_eq_some_iff (h : Links infos es f) {id : UInt32} {p : PartitionNode} :
    f.partition? id = some p ↔ p ∈ f.partitions ∧ p.id = id :=
  h.partitionSlots.bind_getElem?_eq_some_iff

theorem subPartition?_eq_some_iff (h : Links infos es f) {id : UInt32} {s : SubPartitionNode} :
    f.subPartition? id = some s ↔ s ∈ f.subPartitions ∧ s.id = id :=
  h.subPartitionSlots.bind_getElem?_eq_some_iff

/-! ### Entries -/

/-- The partitions of a device are the entries that name it. -/
theorem map_filter_device (h : Links infos es f) (device : UInt32) :
    (f.partitions.filter fun p => p.device = device).map (fun p => (p.id, p.info)) =
      ((under .device es).filter fun e => e.parent.id = device).map fun e => (e.entity.id, e.info) := by
  have hmap := congrArg
    (fun xs => (xs.filter fun x : UInt32 × UInt32 × PartitionInfo => x.2.1 = device).map fun x => (x.1, x.2.2))
    h.partitions
  simpa only [List.filter_map, List.map_map, Function.comp_def] using hmap

/-- The partitions of a partition are the entries that name it. -/
theorem map_filter_partition (h : Links infos es f) {p : PartitionNode} (hp : f.partitions[i]? = some p) :
    (f.subPartitions.filter fun s => s.partition == i).map (fun s => (s.id, s.info)) =
      ((under .partition es).filter fun e => e.parent.id = p.id).map fun e => (e.entity.id, e.info) := by
  have hid : (f.partitions.map PartitionNode.id)[i]? = some p.id := by rw [List.getElem?_map, hp, Option.map_some]
  have hslot := (h.partitionSlots _ _).mpr hid
  -- A place has the number of the partition only if it is the place of the partition.
  have hsame : ∀ s ∈ f.subPartitions,
      (s.partition == i) = decide ((f.partitions.map PartitionNode.id)[s.partition]? = some p.id) := by
    intro s _
    rw [Bool.eq_iff_iff, beq_iff_eq, decide_eq_true_iff, ← h.partitionSlots, hslot, Option.some_inj, eq_comm]
  have hmap := congrArg
    (fun xs => (xs.filter fun x : UInt32 × Option UInt32 × PartitionInfo => x.2.1 = some p.id).map
      fun x => (x.1, x.2.2))
    h.subPartitions
  simp only [List.filter_map, List.map_map, Function.comp_def, Option.some_inj] at hmap
  rw [List.filter_congr hsame, hmap]

end Links
end Forest

namespace Topology
open Forest

/-- The topology has what the listing says and nothing else, and every way through it is right. -/
structure Intact (listing : List HierarchyEntry) (t : Topology) : Prop where
  partitions : t.forest.partitions.map (fun p => (p.id, p.device, p.info)) =
    (under .device listing).map fun e => (e.entity.id, e.parent.id, e.info)
  subPartitions : t.forest.subPartitions.map (fun s => (s.id, s.info)) =
    (under .partition listing).map fun e => (e.entity.id, e.info)
  nodup : (t.forest.partitions.map PartitionNode.id).Nodup
  nodupSub : (t.forest.subPartitions.map SubPartitionNode.id).Nodup
  byId : ∀ id p, t.partition? id = some p ↔ p ∈ t.forest.partitions ∧ p.id = id
  subById : ∀ id s, t.subPartition? id = some s ↔ s ∈ t.forest.subPartitions ∧ s.id = id
  ofDevice : ∀ d, (t.partitionsOf d).map (fun p => (p.id, p.info)) =
    ((under .device listing).filter fun e => e.parent.id = d).map fun e => (e.entity.id, e.info)
  deviceOf : ∀ d, ∀ p ∈ t.partitionsOf d, p ∈ t.forest.partitions ∧ (t.device? d).isSome ∧ t.deviceOf? p = t.device? d
  perm : t.partitions.Perm t.forest.partitions
  ascending : t.partitions.Pairwise fun p q => p.device ≤ q.device
  ofPartition : ∀ p ∈ t.forest.partitions, (t.subPartitionsOf p.id).map (fun s => (s.id, s.info)) =
    ((under .partition listing).filter fun e => e.parent.id = p.id).map fun e => (e.entity.id, e.info)
  partitionOf : ∀ p ∈ t.forest.partitions, ∀ s ∈ t.subPartitionsOf p.id,
    s ∈ t.forest.subPartitions ∧ t.partitionOf? s = some p
  inRange : t.forest.InRange

section Intact
variable {σ : Type} {infos : List DeviceInfo} {listing : List HierarchyEntry} {t : Topology}

theorem partitionsOf_eq (h : Links infos listing t.forest) (d : UInt32) :
    t.partitionsOf d = t.forest.partitions.filter fun p => p.device = d := by
  rw [Topology.partitionsOf]
  cases hd : t.forest.devices[d.toNat]? with
  | none =>
    have hlt := List.getElem?_eq_none_iff.mp hd
    refine (List.filter_eq_nil_iff.mpr fun p hp => ?_).symm
    have hp := h.inRange.device p hp
    rw [decide_eq_true_iff]
    rintro rfl
    omega
  | some node =>
    refine (h.partitionsOf_eq hd).trans (List.filter_congr fun p _ => ?_)
    rw [Bool.eq_iff_iff, beq_iff_eq, decide_eq_true_iff, UInt32.toNat_inj]

theorem subPartitionsOf_eq (h : Links infos listing t.forest) {p : PartitionNode} (hp : p ∈ t.forest.partitions) :
    t.subPartitionsOf p.id = t.forest.subPartitionsOf p := by
  rw [Topology.subPartitionsOf, Topology.partition?, h.partition?_eq_some_iff.mpr ⟨hp, rfl⟩]

theorem intact_of_links (h : Links infos listing t.forest) : Intact listing t where
  partitions := h.partitions
  subPartitions := by
    have hmap := congrArg (List.map fun x : UInt32 × Option UInt32 × PartitionInfo => (x.1, x.2.2)) h.subPartitions
    simpa only [List.map_map, Function.comp_def] using hmap
  nodup := h.partitionSlots.nodup
  nodupSub := h.subPartitionSlots.nodup
  byId := fun _ _ => h.partition?_eq_some_iff
  subById := fun _ _ => h.subPartition?_eq_some_iff
  ofDevice := by
    intro d
    rw [partitionsOf_eq h]
    exact h.map_filter_device d
  deviceOf := by
    intro d p hp
    rw [partitionsOf_eq h] at hp
    obtain ⟨hmem, hdevice⟩ := List.mem_filter.mp hp
    obtain rfl := of_decide_eq_true hdevice
    refine ⟨hmem, ?_, rfl⟩
    rw [device?_isSome h, decide_eq_true_iff, ← h.length_devices]
    exact h.inRange.device p hmem
  perm := h.perm_partitionsOf
  ascending := h.pairwise_partitionsOf
  ofPartition := by
    intro p hp
    obtain ⟨i, hi⟩ := List.mem_iff_getElem?.mp hp
    rw [subPartitionsOf_eq h hp, h.subPartitionsOf_eq hi]
    exact h.map_filter_partition hi
  partitionOf := by
    intro p hp s hs
    obtain ⟨i, hi⟩ := List.mem_iff_getElem?.mp hp
    rw [subPartitionsOf_eq h hp, h.subPartitionsOf_eq hi] at hs
    obtain ⟨hmem, hparent⟩ := List.mem_filter.mp hs
    obtain rfl := beq_iff_eq.mp hparent
    exact ⟨hmem, hi⟩
  inRange := h.inRange

/-- Whatever the manager, a build that succeeds gives a topology with the integrity that the listing it
    was told promises. -/
theorem build_intact (m : DeviceManager σ) (rules : SelectionRules) (permit : Bool) (s : σ) {s' : σ}
    {report : BuildReport} (h : build m rules permit s = (.ok (t, report), s')) :
    ∃ listing, (answers m s).listing = .ok listing ∧ Intact listing t := by
  have hends : Ends _ _ (build m rules permit s).1 := build_ends m rules permit s
  rw [h] at hends
  obtain ⟨names, hlisting, -, hbuilt⟩ := hends.of_ok
  exact ⟨_, hlisting, intact_of_links hbuilt.links⟩

theorem build_intact_twoDevices :
    ∃ t report, build twoDevices .flex false () = (.ok (t, report), ()) ∧ t.partitions.map PartitionNode.id = [4, 7] ∧
      ∃ listing, (answers twoDevices ()).listing = .ok listing ∧ Intact listing t :=
  ⟨_, _, rfl, rfl, build_intact twoDevices .flex false () rfl⟩

end Intact
end Topology
end Telemetry
