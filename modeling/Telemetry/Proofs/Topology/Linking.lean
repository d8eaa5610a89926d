import Telemetry.Proofs.Slots
import Telemetry.Topology.Build

/-! The links of a forest. A listing alone says what is linked to what: the partitions are its entries
    under devices and the partitions of partitions its entries under partitions, all in its order. What
    the forest keeps of this, places of children and of parents and places by numbers, agrees with it
    after every entry, and the names of profiles leave it as it is. -/

namespace Telemetry

/-! ### What a listing says -/

/-- The entries whose parents are of a class. -/
def under (cls : EntityClass) (es : List HierarchyEntry) : List HierarchyEntry := es.filter fun e => e.parent.cls = cls

/-- The numbers of the entries whose parents are of a class. -/
def idsUnder (cls : EntityClass) (es : List HierarchyEntry) : List UInt32 := (under cls es).map fun e => e.entity.id

theorem under_concat (cls : EntityClass) (es : List HierarchyEntry) (e : HierarchyEntry) :
    under cls (es ++ [e]) = under cls es ++ if e.parent.cls = cls then [e] else [] := by
  rw [under, List.filter_append]
  by_cases h : e.parent.cls = cls <;> simp [under, h]

namespace Forest

/-- The forest is what the devices and the entries of a listing so far say, and its places agree with
    it: those of children, in their order, those of parents, and those by numbers. -/
structure Links (infos : List DeviceInfo) (es : List HierarchyEntry) (f : Forest) : Prop where
  devices : f.devices.map DeviceNode.info = infos
  partitions :
    f.partitions.map (fun p => (p.id, p.device, p.info)) =
      (under .device es).map fun e => (e.entity.id, e.parent.id, e.info)
  subPartitions :
    f.subPartitions.map (fun s => (s.id, (f.partitions.map PartitionNode.id)[s.partition]?, s.info)) =
      (under .partition es).map fun e => (e.entity.id, some e.parent.id, e.info)
  partitionSlots : Indexes (fun id => f.partitionSlots.lookup id) (f.partitions.map PartitionNode.id)
  subPartitionSlots : Indexes (fun id => f.subPartitionSlots.lookup id) (f.subPartitions.map SubPartitionNode.id)
  parents : ∀ device ∈ f.partitions.map PartitionNode.device, device.toNat < infos.length
  ofDevice : ∀ i slots, (f.devices.map DeviceNode.partitions)[i]? = some slots →
    slots = places (fun device => device.toNat == i) (f.partitions.map PartitionNode.device)
  ofPartition : ∀ i slots, (f.partitions.map PartitionNode.subPartitions)[i]? = some slots →
    slots = places (fun parent => parent == i) (f.subPartitions.map SubPartitionNode.partition)

namespace Links
variable {infos : List DeviceInfo} {es : List HierarchyEntry} {e : HierarchyEntry} {f : Forest}

theorem start (infos : List DeviceInfo) : Links infos [] { devices := infos.map fun info => { info } } where
  devices := by
    rw [List.map_map]
    exact List.map_id infos
  partitions := rfl
  subPartitions := rfl
  partitionSlots := Indexes.nil
  subPartitionSlots := Indexes.nil
  parents := by simp
  ofDevice := by
    intro i slots h
    obtain ⟨d, hd, rfl⟩ := List.mem_map.mp (List.mem_of_getElem? h)
    obtain ⟨info, -, rfl⟩ := List.mem_map.mp hd
    rfl
  ofPartition := by simp

theorem length_devices (h : Links infos es f) : f.devices.length = infos.length := by
  rw [← h.devices, List.length_map]

/-- A partition of a partition has its parent among the partitions. -/
theorem parent_lt (h : Links infos es f) : ∀ s ∈ f.subPartitions, s.partition < f.partitions.length := by
  intro s hs
  have hmem := List.mem_map_of_mem (f := fun s => (s.id, (f.partitions.map PartitionNode.id)[s.partition]?, s.info)) hs
  rw [h.subPartitions] at hmem
  obtain ⟨e, -, he⟩ := List.mem_map.mp hmem
  have hparent := (Prod.mk.inj (Prod.mk.inj he).2).1
  simpa using (List.getElem?_eq_some_iff.mp hparent.symm).1

theorem lookup_cons_slot {slots : Slots} {id : UInt32} {slot : Nat} (j : UInt32) :
    ((id, slot) :: slots).lookup j = if id = j then some slot else slots.lookup j := by
  rw [List.lookup_cons]
  by_cases h : id = j
  · simp [h]
  · simp [h, beq_eq_false_iff_ne.mpr (Ne.symm h)]

/-- The place of a new child goes to the end of what its parent has, which is where a listing that goes
    on puts the child. -/
theorem children_concat {κ : Type} {lists : List (List Nat)} {parents : List κ} {g : κ → Nat}
    (h : ∀ i slots, lists[i]? = some slots → slots = places (fun x => g x == i) parents) (x : κ) :
    ∀ i slots, (lists.modify (g x) (· ++ [parents.length]))[i]? = some slots →
      slots = places (fun x => g x == i) (parents ++ [x]) := by
  intro i slots hslots
  rw [List.getElem?_modify] at hslots
  obtain ⟨former, hformer, rfl⟩ := Option.map_eq_some_iff.mp hslots
  rw [places_concat, h i former hformer]
  by_cases hi : g x = i <;> simp [hi]

theorem addPartition (h : Links infos es f) (hclass : e.parent.cls = .device)
    (hdevice : e.parent.id.toNat < infos.length) (hnew : f.partitionSlots.lookup e.entity.id = none) :
    Links infos (es ++ [e]) (f.addPartition e.parent.id e.entity.id e.info) where
  devices := by
    rw [← h.devices, Forest.addPartition]
    refine map_modify_of_eq (fun d => ?_) _ _
    rfl
  partitions := by
    rw [Forest.addPartition, under_concat, if_pos hclass, List.map_append, List.map_append, h.partitions]
    rfl
  subPartitions := by
    have hne : e.parent.cls ≠ .partition := by simp [hclass]
    rw [under_concat, if_neg hne, List.append_nil, ← h.subPartitions]
    refine List.map_congr_left fun s hs => ?_
    have hlt : s.partition < (f.partitions.map PartitionNode.id).length := by
      rw [List.length_map]
      exact h.parent_lt s hs
    simp only [Forest.addPartition, List.map_append]
    rw [List.getElem?_append_left hlt]
  partitionSlots := by
    rw [Forest.addPartition, List.map_append]
    refine h.partitionSlots.append hnew fun id => ?_
    rw [lookup_cons_slot, List.length_map]
  subPartitionSlots := h.subPartitionSlots
  parents := by
    intro device hdev
    rw [Forest.addPartition, List.map_append] at hdev
    rcases List.mem_append.mp hdev with hdev | hdev
    · exact h.parents device hdev
    · rw [List.mem_singleton.mp hdev]
      exact hdevice
  ofDevice := by
    have hlists : (f.addPartition e.parent.id e.entity.id e.info).devices.map DeviceNode.partitions =
        (f.devices.map DeviceNode.partitions).modify e.parent.id.toNat
          (· ++ [(f.partitions.map PartitionNode.device).length]) := by
      rw [List.length_map, Forest.addPartition]
      refine map_modify (fun d => ?_) _ _
      rfl
    rw [hlists, Forest.addPartition, List.map_append]
    exact children_concat (g := UInt32.toNat) h.ofDevice e.parent.id
  ofPartition := by
    intro i slots hslots
    rw [Forest.addPartition, List.map_append, List.getElem?_append] at hslots
    split at hslots
    · exact h.ofPartition i slots hslots
    · -- The new partition has no children, and no partition of a partition has its place for a parent.
      rename_i hi
      obtain rfl : slots = [] := by
        simpa using (List.mem_of_getElem? hslots)
      refine (places_eq_nil fun parent hparent => ?_).symm
      obtain ⟨s, hs, rfl⟩ := List.mem_map.mp hparent
      have hlt := h.parent_lt s hs
      rw [List.length_map] at hi
      exact beq_eq_false_iff_ne.mpr (by omega)

/-- Only the list of children of its parent tells that a partition of a partition came. -/
theorem map_addSubPartition {β : Type} {parent : Nat} {id : UInt32} {info : PartitionInfo} (g : PartitionNode → β)
    (hg : ∀ p slots, g { p with subPartitions := slots } = g p) :
    (f.addSubPartition parent id info).partitions.map g = f.partitions.map g :=
  map_modify_of_eq (fun p => hg p _) _ _

theorem addSubPartition {parent : Nat} (h : Links infos es f) (hclass : e.parent.cls = .partition)
    (hparent : f.partitionSlots.lookup e.parent.id = some parent)
    (hnew : f.subPartitionSlots.lookup e.entity.id = none) :
    Links infos (es ++ [e]) (f.addSubPartition parent e.entity.id e.info) where
  devices := h.devices
  partitions := by
    have hne : e.parent.cls ≠ .device := by simp [hclass]
    rw [map_addSubPartition _ fun _ _ => rfl, under_concat, if_neg hne, List.append_nil]
    exact h.partitions
  subPartitions := by
    have hid : (f.partitions.map PartitionNode.id)[parent]? = some e.parent.id :=
      (h.partitionSlots _ _).mp hparent
    rw [map_addSubPartition _ fun _ _ => rfl, under_concat, if_pos hclass, List.map_append,
      ← h.subPartitions, Forest.addSubPartition, List.map_append, List.map_singleton, hid, List.map_singleton]
  partitionSlots := by
    rw [map_addSubPartition _ fun _ _ => rfl]
    exact h.partitionSlots
  subPartitionSlots := by
    rw [Forest.addSubPartition, List.map_append]
    refine h.subPartitionSlots.append hnew fun id => ?_
    rw [lookup_cons_slot, List.length_map]
  parents := by
    rw [map_addSubPartition _ fun _ _ => rfl]
    exact h.parents
  ofDevice := by
    rw [map_addSubPartition _ fun _ _ => rfl]
    exact h.ofDevice
  ofPartition := by
    have hlists : (f.addSubPartition parent e.entity.id e.info).partitions.map PartitionNode.subPartitions =
        (f.partitions.map PartitionNode.subPartitions).modify parent
          (· ++ [(f.subPartitions.map SubPartitionNode.partition).length]) := by
      rw [List.length_map, Forest.addSubPartition]
      refine map_modify (fun p => ?_) _ _
      rfl
    rw [hlists, Forest.addSubPartition, List.map_append]
    exact children_concat (g := id) h.ofPartition parent

theorem passOver (h : Links infos es f) (hdevice : e.parent.cls ≠ .device) (hpartition : e.parent.cls ≠ .partition) :
    Links infos (es ++ [e]) f := by
  have hd : under .device (es ++ [e]) = under .device es := by
    rw [under_concat, if_neg hdevice, List.append_nil]
  have hp : under .partition (es ++ [e]) = under .partition es := by
    rw [under_concat, if_neg hpartition, List.append_nil]
  exact { h with
    partitions := by rw [hd, h.partitions]
    subPartitions := by rw [hp, h.subPartitions] }

end Links

/-! ### Names -/

/-- The forest without the names of profiles. -/
def nameless (f : Forest) : Forest :=
  { f with
    partitions := f.partitions.map fun p => { p with profile := "" }
    subPartitions := f.subPartitions.map fun s => { s with profile := "" } }

section Names
variable {f g : Forest}

theorem nameless_rename? {entity : Entity} {name : String} (h : f.rename? entity name = some g) :
    g.nameless = f.nameless := by
  unfold rename? at h
  split at h
  · obtain ⟨slot, -, rfl⟩ := Option.map_eq_some_iff.mp h
    refine congrArg (fun ps => { f.nameless with partitions := ps }) (map_modify_of_eq (fun p => ?_) _ _)
    rfl
  · obtain ⟨slot, -, rfl⟩ := Option.map_eq_some_iff.mp h
    refine congrArg (fun ss => { f.nameless with subPartitions := ss }) (map_modify_of_eq (fun s => ?_) _ _)
    rfl
  · exact absurd h (Option.some_ne_none g).symm

theorem nameless_renameAll (f : Forest) (names : List (Entity × String)) :
    (f.renameAll names).1.nameless = f.nameless := by
  induction names generalizing f with
  | nil => rfl
  | cons x names ih =>
    rw [renameAll]
    split
    · rename_i g hg
      rw [ih g, nameless_rename? hg]
    · exact ih f

theorem map_partitions_of_nameless_eq {β : Type} (h : g.nameless = f.nameless) (k : PartitionNode → β)
    (hk : ∀ p name, k { p with profile := name } = k p) : g.partitions.map k = f.partitions.map k := by
  have hmap := congrArg (fun f => f.partitions.map k) h
  simpa only [nameless, List.map_map, Function.comp_def, hk] using hmap

theorem map_subPartitions_of_nameless_eq {β : Type} (h : g.nameless = f.nameless) (k : SubPartitionNode → β)
    (hk : ∀ s name, k { s with profile := name } = k s) : g.subPartitions.map k = f.subPartitions.map k := by
  have hmap := congrArg (fun f => f.subPartitions.map k) h
  simpa only [nameless, List.map_map, Function.comp_def, hk] using hmap

/-- Links do not depend on names. -/
theorem Links.of_nameless_eq {infos : List DeviceInfo} {es : List HierarchyEntry} (h : Links infos es f)
    (hg : g.nameless = f.nameless) : Links infos es g := by
  have hp {β : Type} := map_partitions_of_nameless_eq (β := β) hg
  have hs {β : Type} := map_subPartitions_of_nameless_eq (β := β) hg
  have hdevices : g.devices = f.devices := congrArg (fun f => f.devices) hg
  have hpslots : g.partitionSlots = f.partitionSlots := congrArg (fun f => f.partitionSlots) hg
  have hsslots : g.subPartitionSlots = f.subPartitionSlots := congrArg (fun f => f.subPartitionSlots) hg
  constructor
  · rw [hdevices]
    exact h.devices
  · rw [hp _ fun _ _ => rfl]
    exact h.partitions
  · rw [hs _ fun _ _ => rfl, hp _ fun _ _ => rfl]
    exact h.subPartitions
  · rw [hpslots, hp _ fun _ _ => rfl]
    exact h.partitionSlots
  · rw [hsslots, hs _ fun _ _ => rfl]
    exact h.subPartitionSlots
  · rw [hp _ fun _ _ => rfl]
    exact h.parents
  · rw [hdevices, hp _ fun _ _ => rfl]
    exact h.ofDevice
  · rw [hp _ fun _ _ => rfl, hs _ fun _ _ => rfl]
    exact h.ofPartition

end Names
end Forest
end Telemetry
