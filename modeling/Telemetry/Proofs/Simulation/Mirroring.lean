import Telemetry.Proofs.Simulation.Telling
import Telemetry.Proofs.Topology.Integrity
import Telemetry.Proofs.Topology.Selecting

/-! Topologies of simulated devices. The description is flattened to a listing, in which parents come first; if no
    number comes twice, the build finds no fault in it and puts together again what the description says. -/

namespace Telemetry

/-- Of elements with different keys only one has the key that is looked for. -/
theorem flatMap_of_nodup {α β κ : Type} {key : α → κ} {l : List α} {a : α} {f : α → List β}
    (hnodup : (l.map key).Nodup) (ha : a ∈ l) (hf : ∀ b ∈ l, key b ≠ key a → f b = []) : l.flatMap f = f a := by
  obtain ⟨before, after, rfl⟩ := List.append_of_mem ha
  rw [List.map_append, List.map_cons, List.nodup_middle, List.nodup_cons, ← List.map_append, List.mem_map] at hnodup
  have hothers (b : α) (hb : b ∈ before ++ after) : f b = [] := by
    refine hf b ?_ fun heq => hnodup.1 ⟨b, hb, heq⟩
    rw [List.mem_append, List.mem_cons]
    exact (List.mem_append.mp hb).imp_right .inr
  have hbefore : before.flatMap f = [] := List.flatMap_eq_nil_iff.mpr fun b hb => hothers b (List.mem_append_left _ hb)
  have hafter : after.flatMap f = [] := List.flatMap_eq_nil_iff.mpr fun b hb => hothers b (List.mem_append_right _ hb)
  rw [List.flatMap_append, List.flatMap_cons, hbefore, hafter, List.append_nil, List.nil_append]

namespace Simulation
open Telemetry.Topology (answers build checks Built)
open Forest (ParentsFirst firstFault_listingFaults_eq_none faultless_of_nodup nodup_of_faultless listingFaults)

variable {sim : Simulation} {s : State} {permit : Bool} {t : Topology} {report : BuildReport}

/-! ### Success -/

theorem parentsFirst_hierarchy (sim : Simulation) : ParentsFirst sim.hierarchy := by
  refine .flatMap fun x _ => .flatMap fun y _ => ?_
  rw [partitionListing_eq]
  rintro (_ | ⟨first, before⟩) e after hsplit hclass
  · obtain ⟨rfl, -⟩ := List.cons.inj hsplit
    cases hclass
  · obtain ⟨rfl, hrest⟩ := List.cons.inj hsplit
    have hmem : e ∈ y.subPartitions.map (subPartitionEntry (UInt32.ofNat x.1) x.2 y) := by
      rw [hrest]
      exact List.mem_append_right before List.mem_cons_self
    obtain ⟨z, -, rfl⟩ := List.mem_map.mp hmem
    exact List.mem_cons_self

theorem parent_lt_hierarchy (sim : Simulation) :
    ∀ e ∈ under .device sim.hierarchy, e.parent.id.toNat < sim.devices.length := by
  intro e he
  rw [under_device_hierarchy] at he
  obtain ⟨⟨d, x⟩, hd, he⟩ := List.mem_flatMap.mp he
  obtain ⟨y, -, rfl⟩ := List.mem_map.mp he
  have hlt := (List.getElem?_eq_some_iff.mp (mem_indexed.mp hd)).1
  refine Nat.lt_of_le_of_lt ?_ hlt
  show (UInt32.ofNat d).toNat ≤ d
  rw [UInt32.toNat_ofNat']
  exact Nat.mod_le _ _

/-- The listing has no fault if and only if no number comes twice. -/
theorem faultless_hierarchy_iff :
    firstFault (listingFaults sim.devices.length [] sim.hierarchy) = none ↔
      sim.partitionIds.Nodup ∧ sim.subPartitionIds.Nodup := by
  rw [← idsUnder_device_hierarchy, ← idsUnder_partition_hierarchy]
  constructor
  · exact nodup_of_faultless
  · rintro ⟨hids, hsub⟩
    exact faultless_of_nodup sim.parent_lt_hierarchy sim.parentsFirst_hierarchy hids hsub

theorem toNat_ofNat_device {i : Nat} {x : SimulatedDevice} (hsize : sim.devices.length < UInt32.size)
    (hx : sim.devices[i]? = some x) : (UInt32.ofNat i).toNat = i :=
  UInt32.toNat_ofNat_of_lt' (Nat.lt_trans (List.getElem?_eq_some_iff.mp hx).1 hsize)

theorem deviceInfo_ofNat {i : Nat} {x : SimulatedDevice} (hsize : sim.devices.length < UInt32.size)
    (hx : sim.devices[i]? = some x) :
    sim.deviceInfo (UInt32.ofNat i) =
      if x.unavailable then .error (.deviceUnavailable (UInt32.ofNat i) "device is unavailable")
      else .ok { index := UInt32.ofNat i, uuid := x.uuid, model := x.model, supported := x.supported } := by
  rw [deviceInfo, toNat_ofNat_device hsize hx, hx]

/-- What a device is taken to be. -/
def describedDevice (i : UInt32) (x : SimulatedDevice) : DeviceInfo :=
  if x.unavailable then DeviceInfo.placeholder i
  else { index := i, uuid := x.uuid, model := x.model, supported := x.supported }

/-- The fault of a device that is not available. -/
def availabilityFault (permit : Bool) (x : Nat × SimulatedDevice) : Option TopologyError :=
  if x.2.unavailable = true ∧ permit = false then
    some (.device (.deviceUnavailable (UInt32.ofNat x.1) "device is unavailable"))
  else none

theorem infoFault_deviceInfo {i : Nat} {x : SimulatedDevice} (hsize : sim.devices.length < UInt32.size)
    (hx : sim.devices[i]? = some x) (permit : Bool) :
    Topology.infoFault permit (sim.deviceInfo (UInt32.ofNat i)) = availabilityFault permit (i, x) := by
  rw [deviceInfo_ofNat hsize hx, availabilityFault]
  cases x.unavailable <;> cases permit <;> rfl

section Tells
variable {a : Topology.Answers} (h : Tells sim a)
include h

theorem Tells.total_eq : a.total = UInt32.ofNat sim.devices.length := by
  rw [Topology.Answers.total, h.count]
  rfl

theorem Tells.entries_eq : a.entries = sim.hierarchy := by
  rw [Topology.Answers.entries, h.listing]
  rfl

theorem Tells.firstFault_checks (hsize : sim.devices.length < UInt32.size) (permit : Bool) :
    firstFault (checks .flex permit a) =
      (Topology.countFault (UInt32.ofNat sim.devices.length)).or
        ((firstFault ((indexed sim.devices).map (availabilityFault permit))).or
          (firstFault (listingFaults sim.devices.length [] sim.hierarchy))) := by
  have hcount : (UInt32.ofNat sim.devices.length).toNat = sim.devices.length := UInt32.toNat_ofNat_of_lt' hsize
  have hinfos : a.infos.map (Topology.infoFault permit) = (indexed sim.devices).map (availabilityFault permit) := by
    rw [h.infos, hcount, List.map_map]
    exact map_range_length fun i x hx => infoFault_deviceInfo hsize hx permit
  have hrules : firstFault (Topology.ruleFaults a.total.toNat a.entries .flex) = none := rfl
  have hcountFault : Topology.deviceFault a.count = none := by rw [h.count]; rfl
  have hlistingFault : Topology.deviceFault a.listing = none := by rw [h.listing]; rfl
  have hnamesFault : Topology.deviceFault a.names = none := by rw [h.names]; rfl
  simp only [checks, firstFault_append, firstFault_cons, firstFault_nil, hrules, hcountFault, hlistingFault,
    hnamesFault, hinfos, Option.or_none, Option.none_or, Option.or_assoc]
  rw [h.total_eq, h.entries_eq, hcount]

theorem Tells.devices_eq (hsize : sim.devices.length < UInt32.size) :
    a.devices = (indexed sim.devices).map fun x => describedDevice (UInt32.ofNat x.1) x.2 := by
  have hcount : (UInt32.ofNat sim.devices.length).toNat = sim.devices.length := UInt32.toNat_ofNat_of_lt' hsize
  rw [Topology.Answers.devices, h.total_eq, h.infos, hcount, List.zipWith_map_right, List.zipWith_self]
  refine map_range_length fun i x hx => ?_
  rw [deviceInfo_ofNat hsize hx, describedDevice]
  cases x.unavailable <;> rfl

end Tells

theorem countFault_eq_none_iff (hsize : sim.devices.length < UInt32.size) :
    Topology.countFault (UInt32.ofNat sim.devices.length) = none ↔ sim.devices.length ≤ 32 := by
  rw [Topology.countFault, UInt32.toNat_ofNat_of_lt' hsize, ite_eq_right_iff]
  exact ⟨fun h => Nat.not_lt.mp fun hmore => Option.some_ne_none _ (h hmore),
    fun h hmore => absurd hmore (Nat.not_lt.mpr h)⟩

theorem availabilityFault_eq_none_iff {x : Nat × SimulatedDevice} :
    availabilityFault permit x = none ↔ permit = true ∨ x.2.unavailable = false := by
  rw [availabilityFault]
  cases permit <;> cases x.2.unavailable <;> simp

theorem availabilityFaults_eq_none_iff :
    firstFault ((indexed sim.devices).map (availabilityFault permit)) = none ↔
      permit = true ∨ ∀ x ∈ sim.devices, x.unavailable = false := by
  have hall : (∀ x ∈ indexed sim.devices, x.2.unavailable = false) ↔ ∀ x ∈ sim.devices, x.unavailable = false := by
    conv => rhs; rw [← map_snd_indexed sim.devices, List.forall_mem_map]
  rw [firstFault_eq_none_iff, List.forall_mem_map, ← hall]
  simp only [availabilityFault_eq_none_iff]
  cases permit <;> simp

/-- A build succeeds if and only if there are not too many devices, each of them may be told of, and no number
    comes twice. -/
theorem exists_build_iff (hconnected : s.connected = true) (hsize : sim.devices.length < UInt32.size)
    (permit : Bool) :
    (∃ x, (build sim.manager .flex permit s).1 = .ok x) ↔
      sim.devices.length ≤ 32 ∧ (permit = true ∨ ∀ x ∈ sim.devices, x.unavailable = false) ∧
        sim.partitionIds.Nodup ∧ sim.subPartitionIds.Nodup := by
  have hends : Ends _ _ (build sim.manager .flex permit s).1 := Topology.build_ends sim.manager .flex permit s
  rw [hends.exists_ok_iff, (tells_answers hconnected).firstFault_checks hsize, Option.or_eq_none_iff,
    Option.or_eq_none_iff, countFault_eq_none_iff hsize, availabilityFaults_eq_none_iff, faultless_hierarchy_iff]

/-- Without permission for placeholders, a build of not too many devices fails with the first unavailable one. -/
theorem build_unavailable (hconnected : s.connected = true) (hcount : sim.devices.length ≤ 32)
    {before after : List SimulatedDevice} {x : SimulatedDevice} (hsplit : sim.devices = before ++ x :: after)
    (hbefore : ∀ y ∈ before, y.unavailable = false) (hx : x.unavailable = true) :
    (build sim.manager .flex false s).1 =
      .error (.device (.deviceUnavailable (UInt32.ofNat before.length) "device is unavailable")) := by
  have hsize : sim.devices.length < UInt32.size := Nat.lt_of_le_of_lt hcount (by decide)
  have hfirst : firstFault ((indexed sim.devices).map (availabilityFault false)) =
      some (.device (.deviceUnavailable (UInt32.ofNat before.length) "device is unavailable")) := by
    obtain ⟨rest, hrest⟩ := exists_indexed_append before x after
    have hnone : firstFault ((indexed before).map (availabilityFault false)) = none := by
      refine firstFault_eq_none_iff.mpr (List.forall_mem_map.mpr fun y hy => ?_)
      refine availabilityFault_eq_none_iff.mpr (.inr (hbefore y.2 ?_))
      rw [← map_snd_indexed before]
      exact List.mem_map_of_mem hy
    rw [hsplit, hrest, List.map_append, List.map_cons, firstFault_append, firstFault_cons, hnone, availabilityFault,
      if_pos ⟨hx, rfl⟩]
    rfl
  have hends : Ends _ _ (build sim.manager .flex false s).1 := Topology.build_ends sim.manager .flex false s
  rw [hends.eq_error_iff, (tells_answers hconnected).firstFault_checks hsize,
    (countFault_eq_none_iff hsize).mpr hcount, hfirst]
  rfl

/-! ### What is built -/

/-- The name of a profile as a topology has it: none at all if there is none, or only a sentinel. -/
def profileName : Option String → String
  | none => ""
  | some name => if Sentinel.isString name then "" else name

/-- The topology has the devices of the description at their indices, each with its partitions and the partitions
    of these, in the order of the description and with the names of their profiles. -/
structure Mirrors (sim : Simulation) (t : Topology) : Prop where
  length : t.devices.length = sim.devices.length
  device : ∀ (i : Nat) (x : SimulatedDevice), sim.devices[i]? = some x →
    t.device? (UInt32.ofNat i) = some (describedDevice (UInt32.ofNat i) x)
  partitions : ∀ (i : Nat) (x : SimulatedDevice), sim.devices[i]? = some x →
    (t.partitionsOf (UInt32.ofNat i)).map (fun p => (p.id, p.info, p.profile)) = x.partitions.map fun y =>
      (y.id,
        { deviceUuid := x.uuid, deviceIndex := UInt32.ofNat i, instanceId := y.instanceId, profileId := y.profileId,
          slices := y.slices },
        profileName y.profile)
  subPartitions : ∀ (i : Nat) (x : SimulatedDevice), sim.devices[i]? = some x → ∀ y ∈ x.partitions,
    (t.subPartitionsOf y.id).map (fun p => (p.id, p.info, p.profile)) = y.subPartitions.map fun z =>
      (z.id,
        { deviceUuid := x.uuid, deviceIndex := UInt32.ofNat i, instanceId := y.instanceId,
          computeInstanceId := z.computeInstanceId, profileId := y.profileId, slices := y.slices },
        profileName z.profile)

/-- All partitions with the places and the devices that they are of. -/
def partitionsWithin (sim : Simulation) : List (Nat × SimulatedDevice × SimulatedPartition) :=
  (indexed sim.devices).flatMap fun x => x.2.partitions.map fun y => (x.1, x.2, y)

theorem mem_partitionsWithin {i : Nat} {x : SimulatedDevice} {y : SimulatedPartition} :
    (i, x, y) ∈ sim.partitionsWithin ↔ sim.devices[i]? = some x ∧ y ∈ x.partitions := by
  simp [partitionsWithin, mem_indexed]

theorem partitionsWithin_ids (sim : Simulation) :
    sim.partitionsWithin.map (fun x => x.2.2.id) = sim.partitionIds := by
  rw [partitionsWithin, List.map_flatMap]
  simp only [List.map_map]
  exact flatMap_indexed sim.devices fun x => x.partitions.map SimulatedPartition.id

/-- The entries under a device are those of its partitions. -/
theorem filter_under_device {i : Nat} {x : SimulatedDevice} (hsize : sim.devices.length < UInt32.size)
    (hx : sim.devices[i]? = some x) :
    (under .device sim.hierarchy).filter (fun e => e.parent.id = UInt32.ofNat i) =
      x.partitions.map (partitionEntry (UInt32.ofNat i) x) := by
  have hnodup : ((indexed sim.devices).map Prod.fst).Nodup := by
    rw [map_fst_indexed]
    exact List.nodup_range
  rw [under_device_hierarchy, List.filter_flatMap]
  refine (flatMap_of_nodup hnodup (mem_indexed.mpr hx) fun y hy hne => ?_).trans ?_
  · refine List.filter_eq_nil_iff.mpr fun e he heq => hne ?_
    obtain ⟨p, -, rfl⟩ := List.mem_map.mp he
    have hindex : UInt32.ofNat y.1 = UInt32.ofNat i := of_decide_eq_true heq
    rw [← toNat_ofNat_device hsize (mem_indexed.mp hy), hindex, toNat_ofNat_device hsize hx]
  · refine List.filter_eq_self.mpr fun e he => ?_
    obtain ⟨p, -, rfl⟩ := List.mem_map.mp he
    exact decide_eq_true rfl

/-- The entries under a partition are those of its own partitions. -/
theorem filter_under_partition {i : Nat} {x : SimulatedDevice} {y : SimulatedPartition}
    (hids : sim.partitionIds.Nodup) (hx : sim.devices[i]? = some x) (hy : y ∈ x.partitions) :
    (under .partition sim.hierarchy).filter (fun e => e.parent.id = y.id) =
      y.subPartitions.map (subPartitionEntry (UInt32.ofNat i) x y) := by
  have hflat : under .partition sim.hierarchy = sim.partitionsWithin.flatMap fun x =>
      x.2.2.subPartitions.map (subPartitionEntry (UInt32.ofNat x.1) x.2.1 x.2.2) := by
    rw [under_partition_hierarchy, partitionsWithin, List.flatMap_assoc]
    simp only [List.flatMap_map]
  rw [← partitionsWithin_ids] at hids
  rw [hflat, List.filter_flatMap]
  refine (flatMap_of_nodup hids (mem_partitionsWithin.mpr ⟨hx, hy⟩) fun y' _ hne => ?_).trans ?_
  · refine List.filter_eq_nil_iff.mpr fun e he heq => hne ?_
    obtain ⟨p, -, rfl⟩ := List.mem_map.mp he
    exact of_decide_eq_true heq
  · refine List.filter_eq_self.mpr fun e he => ?_
    obtain ⟨p, -, rfl⟩ := List.mem_map.mp he
    exact decide_eq_true rfl

/-! ### Names -/

theorem getD_filter_eq (profile : Option String) :
    (profile.filter fun name => !Sentinel.isString name).getD "" = profileName profile := by
  cases profile with
  | none => rfl
  | some name => cases hsentinel : Sentinel.isString name <;> simp [Option.filter, profileName, hsentinel]

theorem Stands.partition_inv {id : UInt32} {l : Location} {p : Place} (h : Stands sim (Entity.partition id) l p) :
    ∃ x ∈ sim.devices, ∃ y ∈ x.partitions, y.id = id ∧ p = { device := x, partition := some y } := by
  generalize he : Entity.partition id = e at h
  cases h with
  | partition hd hp => exact ⟨_, List.mem_of_getElem? hd, _, List.mem_of_getElem? hp, congrArg Entity.id he.symm, rfl⟩
  | device | subPartition => exact nomatch congrArg Entity.cls he

theorem Stands.subPartition_inv {id : UInt32} {l : Location} {p : Place}
    (h : Stands sim (Entity.subPartition id) l p) :
    ∃ x ∈ sim.devices, ∃ y ∈ x.partitions, ∃ z ∈ y.subPartitions,
      z.id = id ∧ p = { device := x, partition := some y, subPartition := some z } := by
  generalize he : Entity.subPartition id = e at h
  cases h with
  | subPartition hd hp hs =>
    exact ⟨_, List.mem_of_getElem? hd, _, List.mem_of_getElem? hp, _, List.mem_of_getElem? hs,
      congrArg Entity.id he.symm, rfl⟩
  | device | partition => exact nomatch congrArg Entity.cls he

section Names
variable {a : Topology.Answers} {i : Nat} {x : SimulatedDevice} {y : SimulatedPartition} {z : SimulatedSubPartition}

theorem Tells.nameAfter_eq (h : Tells sim a) {e : Entity} (he : e ∈ Forest.profiled sim.hierarchy) :
    Forest.nameAfter a.told e "" = (sim.toldOf? e).getD "" := by
  have htold : a.told = (Forest.profiled sim.hierarchy).filterMap fun e =>
      (sim.toldOf? e).map fun name => (e, name) := by
    rw [Topology.Answers.told, h.names]
    rfl
  rw [htold, Forest.nameAfter_filterMap, if_pos he]

/-- If no number comes twice, a partition has the name of its own profile. -/
theorem Tells.nameAfter_partition (h : Tells sim a) (hids : sim.partitionIds.Nodup) (hx : sim.devices[i]? = some x)
    (hy : y ∈ x.partitions) : Forest.nameAfter a.told (Entity.partition y.id) "" = profileName y.profile := by
  obtain ⟨p, hp⟩ := List.mem_iff_getElem?.mp hy
  obtain ⟨l', p', hplace, hstands⟩ := (Stands.partition hx hp).exists_placeOf?
  obtain ⟨x', hx', y', hy', hid, rfl⟩ := hstands.partition_inv
  have hflat : sim.partitionIds = (sim.devices.flatMap SimulatedDevice.partitions).map SimulatedPartition.id := by
    rw [partitionIds, List.map_flatMap]
  rw [hflat] at hids
  obtain rfl : y' = y := List.inj_on_of_nodup_map hids (List.mem_flatMap.mpr ⟨x', hx', hy'⟩)
    (List.mem_flatMap.mpr ⟨x, List.mem_of_getElem? hx, hy⟩) hid
  rw [h.nameAfter_eq, toldOf?, hplace]
  · exact getD_filter_eq y'.profile
  · exact List.mem_append_left _ (List.mem_map_of_mem (List.mem_map_of_mem (partitionEntry_mem hx hy)))

theorem Tells.nameAfter_subPartition (h : Tells sim a) (hids : sim.subPartitionIds.Nodup)
    (hx : sim.devices[i]? = some x) (hy : y ∈ x.partitions) (hz : z ∈ y.subPartitions) :
    Forest.nameAfter a.told (Entity.subPartition z.id) "" = profileName z.profile := by
  obtain ⟨p, hp⟩ := List.mem_iff_getElem?.mp hy
  obtain ⟨q, hq⟩ := List.mem_iff_getElem?.mp hz
  obtain ⟨l', p', hplace, hstands⟩ := (Stands.subPartition hx hp hq).exists_placeOf?
  obtain ⟨x', hx', y', hy', z', hz', hid, rfl⟩ := hstands.subPartition_inv
  have hflat : sim.subPartitionIds = (sim.devices.flatMap fun x => x.partitions.flatMap
      SimulatedPartition.subPartitions).map SimulatedSubPartition.id := by
    simp only [subPartitionIds, List.map_flatMap]
  rw [hflat] at hids
  obtain rfl : z' = z := List.inj_on_of_nodup_map hids
    (List.mem_flatMap.mpr ⟨x', hx', List.mem_flatMap.mpr ⟨y', hy', hz'⟩⟩)
    (List.mem_flatMap.mpr ⟨x, List.mem_of_getElem? hx, List.mem_flatMap.mpr ⟨y, hy, hz⟩⟩) hid
  rw [h.nameAfter_eq, toldOf?, hplace]
  · exact getD_filter_eq z'.profile
  · exact List.mem_append_right _ (List.mem_map_of_mem (List.mem_map_of_mem (subPartitionEntry_mem hx hy hz)))

end Names

/-! ### Mirrors -/

theorem map_profiles {α β : Type} {nodes : List α} {sources : List β} {id : α → UInt32} {info : α → PartitionInfo}
    {profile : α → String} {entry : β → UInt32 × PartitionInfo} (told : UInt32 → String)
    (hentries : nodes.map (fun p => (id p, info p)) = sources.map entry)
    (hprofiles : ∀ p ∈ nodes, profile p = told (id p)) :
    nodes.map (fun p => (id p, info p, profile p)) =
      sources.map fun y => ((entry y).1, (entry y).2, told (entry y).1) := by
  have hmap := congrArg (List.map fun q : UInt32 × PartitionInfo => (q.1, q.2, told q.1)) hentries
  rw [List.map_map, List.map_map] at hmap
  rw [← Function.comp_def (fun q : UInt32 × PartitionInfo => (q.1, q.2, told q.1)) entry, ← hmap]
  exact List.map_congr_left fun p hp => by rw [hprofiles p hp]; rfl

/-- Whatever is built mirrors the description. -/
theorem mirrors_of_build (hconnected : s.connected = true) (hsize : sim.devices.length < UInt32.size) {s' : State}
    (hbuild : build sim.manager .flex permit s = (.ok (t, report), s')) : Mirrors sim t := by
  have htells : Tells sim (answers sim.manager s) := tells_answers hconnected
  obtain ⟨-, hbuilt⟩ := Topology.built_of_build hbuild
  rw [htells.entries_eq] at hbuilt
  have hintact := Topology.intact_of_links hbuilt.links
  have hids : sim.partitionIds.Nodup := by
    rw [← idsUnder_device_hierarchy]
    exact hbuilt.ids_nodup
  have hsub : sim.subPartitionIds.Nodup := by
    rw [← idsUnder_partition_hierarchy, ← hbuilt.links.subPartition_ids]
    exact hintact.nodupSub
  have hdevices : t.devices = (indexed sim.devices).map fun x => describedDevice (UInt32.ofNat x.1) x.2 := by
    rw [Topology.devices, hbuilt.links.devices, htells.devices_eq hsize]
  refine ⟨?length, fun i x hx => ?device, fun i x hx => ?partitions, fun i x hx y hy => ?subPartitions⟩
  case length => rw [hdevices, List.length_map, ← List.length_map Prod.snd, map_snd_indexed]
  case device =>
    rw [Topology.device?, toNat_ofNat_device hsize hx, hdevices, List.getElem?_map, getElem?_indexed hx]
    rfl
  case partitions =>
    have hentries := hintact.ofDevice (UInt32.ofNat i)
    rw [filter_under_device hsize hx, List.map_map] at hentries
    have hnodes := map_profiles (fun id => Forest.nameAfter _ (Entity.partition id) "") hentries
      fun p hp => hbuilt.profile_eq (hintact.deviceOf _ p hp).1
    refine hnodes.trans (List.map_congr_left fun y hy => ?_)
    rw [← htells.nameAfter_partition hids hx hy]
    rfl
  case subPartitions =>
    obtain ⟨p, hp, hid⟩ : ∃ p ∈ t.forest.partitions, p.id = y.id := by
      have hmem := List.mem_map_of_mem (f := fun e => (e.entity.id, e.parent.id, e.info)) (partitionEntry_mem hx hy)
      rw [← hintact.partitions] at hmem
      obtain ⟨p, hp, heq⟩ := List.mem_map.mp hmem
      exact ⟨p, hp, congrArg Prod.fst heq⟩
    have hentries := hintact.ofPartition p hp
    rw [hid, filter_under_partition hids hx hy, List.map_map] at hentries
    have hnodes := map_profiles (fun id => Forest.nameAfter _ (Entity.subPartition id) "") hentries
      fun q hq => hbuilt.subProfile_eq (hintact.partitionOf p hp q (hid ▸ hq)).1
    refine hnodes.trans (List.map_congr_left fun z hz => ?_)
    rw [← htells.nameAfter_subPartition hsub hx hy hz]
    rfl

/-- With placeholders, a build with the flexible rule over connected devices succeeds if and only if there are at
    most 32 of them and no number of a partition or of a partition of a partition comes twice in the whole
    description; without, if also no device is unavailable, the first of which is otherwise what a build of at most
    32 devices fails with. What is built mirrors the description. -/
theorem build_mirrors_description (hconnected : s.connected = true) (hsize : sim.devices.length < UInt32.size) :
    ((∃ x, (build sim.manager .flex true s).1 = .ok x) ↔
      sim.devices.length ≤ 32 ∧ sim.partitionIds.Nodup ∧ sim.subPartitionIds.Nodup) ∧
    ((∃ x, (build sim.manager .flex false s).1 = .ok x) ↔
      (sim.devices.length ≤ 32 ∧ sim.partitionIds.Nodup ∧ sim.subPartitionIds.Nodup) ∧
        ∀ x ∈ sim.devices, x.unavailable = false) ∧
    (∀ before x after, sim.devices = before ++ x :: after → (∀ y ∈ before, y.unavailable = false) →
      x.unavailable = true → sim.devices.length ≤ 32 →
      (build sim.manager .flex false s).1 =
        .error (.device (.deviceUnavailable (UInt32.ofNat before.length) "device is unavailable"))) ∧
    ∀ permit t report s', build sim.manager .flex permit s = (.ok (t, report), s') → Mirrors sim t := by
  refine ⟨?_, ?_, ?_, fun permit t report s' hbuild => mirrors_of_build hconnected hsize hbuild⟩
  · rw [exists_build_iff hconnected hsize]
    simp
  · rw [exists_build_iff hconnected hsize]
    constructor
    · rintro ⟨hcount, havailable, hids⟩
      exact ⟨⟨hcount, hids⟩, havailable.resolve_left Bool.false_ne_true⟩
    · rintro ⟨⟨hcount, hids⟩, havailable⟩
      exact ⟨hcount, .inr havailable, hids⟩
  · intro before x after hsplit hbefore hx hcount
    exact build_unavailable hconnected hcount hsplit hbefore hx

theorem build_mirrors_description_partlyUnavailable :
    let sim := partlyUnavailable
    let s : State := { connected := true }
    (∃ t report s', build sim.manager .flex true s = (.ok (t, report), s') ∧ Mirrors sim t) ∧
      (build sim.manager .flex false s).1 = .error (.device (.deviceUnavailable 1 "device is unavailable")) := by
  intro sim s
  have hconnected : s.connected = true := rfl
  have hsize : sim.devices.length < UInt32.size := by decide
  obtain ⟨hpermitted, -, hfirst, hmirrors⟩ := build_mirrors_description hconnected hsize
  obtain ⟨⟨t, report⟩, hok⟩ := hpermitted.mpr ⟨by decide, by decide, by decide⟩
  have hbuild : build sim.manager .flex true s = (.ok (t, report), (build sim.manager .flex true s).2) :=
    Prod.ext hok rfl
  refine ⟨⟨t, report, _, hbuild, hmirrors true t report _ hbuild⟩, ?_⟩
  exact hfirst [_] _ [] rfl (by simp) rfl (by decide)

end Simulation
end Telemetry
