import Telemetry.Proofs.Selection.Grammar
import Telemetry.Proofs.Topology.Integrity
import Telemetry.Proofs.Topology.Naming
import Telemetry.Proofs.Topology.Outcome
import Telemetry.Topology.Selected

/-! What the rules select from a topology that is built. The rules, the number of devices and the listing
    alone say which entities these are and in which order; what is known of each of them is what the
    manager told. A build has held the rules against its result, so nothing is missing later. -/

namespace Telemetry
namespace Topology
open Forest
open Selection (listed)

/-! ### What there is to select -/

/-- All devices, by their indices. -/
def deviceEntities (count : Nat) : List Entity := (List.range count).map fun i => Entity.device (UInt32.ofNat i)

/-- All partitions, device by device and as they are listed. -/
def partitionEntities (count : Nat) (listing : List HierarchyEntry) : List Entity :=
  (List.range count).flatMap fun i =>
    ((under .device listing).filter fun e => e.parent.id.toNat = i).map fun e => Entity.partition e.entity.id

/-- The entities that rules select where there are so many devices and a listing. -/
def chosen (rules : SelectionRules) (count : Nat) (listing : List HierarchyEntry) : List Entity :=
  match rules with
  | .flex => if listing.isEmpty then deviceEntities count else partitionEntities count listing
  | .explicit _ (some .all) => partitionEntities count listing
  | .explicit _ (some (.indices ids)) => ids.map Entity.partition
  | .explicit (some .all) none => deviceEntities count
  | .explicit (some (.indices is)) none => is.map Entity.device
  | .explicit none none => []

/-- What is known of an entity is what was told of its device, and of a partition also what the listing
    has of it and the name that was told for it. -/
inductive Told (infos : List DeviceInfo) (listing : List HierarchyEntry) (names : List (Entity × String)) :
    MonitoredEntity → Prop where
  | device {i : UInt32} {info : DeviceInfo} (hinfo : infos[i.toNat]? = some info) :
    Told infos listing names { entity := Entity.device i, device := info }
  | partition {e : HierarchyEntry} {info : DeviceInfo} (he : e ∈ under .device listing)
      (hinfo : infos[e.parent.id.toNat]? = some info) :
    Told infos listing names
      { entity := Entity.partition e.entity.id
        device := info
        partition := some
          { id := e.entity.id
            instanceId := e.info.instanceId
            profile := nameAfter names (Entity.partition e.entity.id) "" } }

/-- The entities with what is known of them. -/
structure Presents (infos : List DeviceInfo) (listing : List HierarchyEntry) (names : List (Entity × String))
    (entities : List Entity) (es : List MonitoredEntity) : Prop where
  entities : es.map MonitoredEntity.entity = entities
  told : ∀ e ∈ es, Told infos listing names e

section Presents
variable {infos : List DeviceInfo} {listing : List HierarchyEntry} {names : List (Entity × String)}
  {entities entities' : List Entity} {e e' : MonitoredEntity} {es es' : List MonitoredEntity}

theorem partition_inj {id id' : UInt32} (h : Entity.partition id = Entity.partition id') : id = id' :=
  congrArg Entity.id h

theorem device_inj {i i' : UInt32} (h : Entity.device i = Entity.device i') : i = i' := congrArg Entity.id h

theorem device_ne_partition (i id : UInt32) : Entity.device i ≠ Entity.partition id := by
  simp [Entity.device, Entity.partition]

/-- No two things are known of one entity. -/
theorem Told.unique (h : Told infos listing names e) (h' : Told infos listing names e')
    (hids : (idsUnder .device listing).Nodup) (heq : e.entity = e'.entity) : e = e' := by
  cases h with
  | device hinfo =>
    cases h' with
    | device hinfo' =>
      obtain rfl := device_inj heq
      rw [hinfo] at hinfo'
      cases hinfo'
      rfl
    | partition => exact absurd heq (device_ne_partition _ _)
  | partition he hinfo =>
    cases h' with
    | device => exact absurd heq.symm (device_ne_partition _ _)
    | partition he' hinfo' =>
      obtain rfl := List.inj_on_of_nodup_map hids he he' (partition_inj heq)
      rw [hinfo] at hinfo'
      cases hinfo'
      rfl

theorem Presents.mem_iff (h : Presents infos listing names entities es) (hids : (idsUnder .device listing).Nodup) :
    e ∈ es ↔ e.entity ∈ entities ∧ Told infos listing names e := by
  constructor
  · intro he
    rw [← h.entities]
    exact ⟨List.mem_map_of_mem he, h.told e he⟩
  · rintro ⟨hmem, htold⟩
    rw [← h.entities] at hmem
    obtain ⟨e', he', heq⟩ := List.mem_map.mp hmem
    rwa [htold.unique (h.told e' he') hids heq.symm]

/-- Where each of some things gives an entity of which it is known what it is, all of them do. -/
theorem exists_mapM_presents {α ε : Type} {f : α → Except ε MonitoredEntity} {g : α → Entity} {l : List α}
    (h : ∀ x ∈ l, ∃ e, f x = .ok e ∧ e.entity = g x ∧ Told infos listing names e) :
    ∃ es, l.mapM f = .ok es ∧ Presents infos listing names (l.map g) es := by
  induction l with
  | nil => exact ⟨[], rfl, rfl, by simp⟩
  | cons x l ih =>
    obtain ⟨e, he, hentity, htold⟩ := h x List.mem_cons_self
    obtain ⟨es, hes, hentities, htolds⟩ := ih fun y hy => h y (List.mem_cons_of_mem x hy)
    refine ⟨e :: es, ?_, ?_, List.forall_mem_cons.mpr ⟨htold, htolds⟩⟩
    · rw [List.mapM_cons, he, hes]
      rfl
    · rw [List.map_cons, List.map_cons, hentity, hentities]

/-- The order of entities aside, they have the same known of them. -/
theorem Presents.perm (h : Presents infos listing names entities es) (h' : Presents infos listing names entities' es')
    (hids : (idsUnder .device listing).Nodup) (hperm : entities.Perm entities') (hnodup : entities.Nodup) :
    es.Perm es' := by
  have hes : es.Nodup := .of_map _ (h.entities ▸ hnodup)
  have hes' : es'.Nodup := .of_map _ (h'.entities ▸ hperm.nodup_iff.mp hnodup)
  refine (List.perm_ext_iff_of_nodup hes hes').mpr fun e => ?_
  rw [h.mem_iff hids, h'.mem_iff hids, hperm.mem_iff]

end Presents

/-! ### What is built has them -/

section Built
variable {rules : SelectionRules} {infos : List DeviceInfo} {listing : List HierarchyEntry}
  {names : List (Entity × String)} {t : Topology} {report : BuildReport}

theorem Built.exists_named (h : Built rules infos listing names t report) :
    ∃ f, Unnamed f ∧ t.forest = f.named names := by
  obtain ⟨f, hlinks, hattached, hresolve⟩ := h.forest
  have hforest := (congrArg Prod.fst hresolve).symm.trans (hlinks.numbered.renameAll_fst names)
  exact ⟨f, (unnamed_start infos).attachAll hattached, hforest⟩

theorem Built.profile_eq (h : Built rules infos listing names t report) {p : PartitionNode}
    (hp : p ∈ t.forest.partitions) : p.profile = nameAfter names (Entity.partition p.id) "" := by
  obtain ⟨f, hunnamed, hforest⟩ := h.exists_named
  rw [hforest] at hp
  obtain ⟨q, hq, rfl⟩ := List.mem_map.mp hp
  simp only [hunnamed.partitions q hq]

theorem Built.subProfile_eq (h : Built rules infos listing names t report) {p : SubPartitionNode}
    (hp : p ∈ t.forest.subPartitions) : p.profile = nameAfter names (Entity.subPartition p.id) "" := by
  obtain ⟨f, hunnamed, hforest⟩ := h.exists_named
  rw [hforest] at hp
  obtain ⟨q, hq, rfl⟩ := List.mem_map.mp hp
  simp only [hunnamed.subPartitions q hq]

theorem Built.monitoredPartition (h : Built rules infos listing names t report) {p : PartitionNode}
    (hp : p ∈ t.forest.partitions) :
    ∃ e, t.monitoredPartition p = .ok e ∧ e.entity = Entity.partition p.id ∧ Told infos listing names e := by
  have hentry := List.mem_map_of_mem (f := fun p : PartitionNode => (p.id, p.device, p.info)) hp
  rw [h.links.partitions] at hentry
  obtain ⟨entry, hmem, heq⟩ := List.mem_map.mp hentry
  simp only [Prod.mk.injEq] at heq
  obtain ⟨hid, hparent, hinfo⟩ := heq
  have hlt : p.device.toNat < infos.length := h.links.parents p.device (List.mem_map_of_mem hp)
  have hdevice : t.deviceOf? p = some infos[p.device.toNat] := by
    rw [deviceOf?, device?, devices, h.links.devices, List.getElem?_eq_getElem hlt]
  refine ⟨_, by rw [Topology.monitoredPartition, hdevice], rfl, ?_⟩
  rw [h.profile_eq hp, ← hid, ← hinfo]
  refine .partition hmem ?_
  simp only [hparent, List.getElem?_eq_getElem hlt]

theorem Built.ids_nodup (h : Built rules infos listing names t report) : (idsUnder .device listing).Nodup := by
  rw [← h.links.partition_ids]
  exact h.links.partitionSlots.nodup

theorem Built.parent_lt (h : Built rules infos listing names t report) :
    ∀ e ∈ under .device listing, e.parent.id.toNat < infos.length := by
  have hparents : t.forest.partitions.map PartitionNode.device = (under .device listing).map fun e => e.parent.id := by
    have hmap := congrArg (List.map fun x : UInt32 × UInt32 × PartitionInfo => x.2.1) h.links.partitions
    simpa only [List.map_map, Function.comp_def] using hmap
  intro e he
  refine h.links.parents e.parent.id ?_
  rw [hparents]
  exact List.mem_map_of_mem he

theorem Built.partitions_entities (h : Built rules infos listing names t report) :
    t.partitions.map (fun p => Entity.partition p.id) = partitionEntities infos.length listing := by
  rw [Topology.partitions, h.links.flatMap_partitionsOf, List.map_flatMap, partitionEntities]
  refine List.flatMap_congr fun i _ => ?_
  have hmap := congrArg
    (fun xs => (xs.filter fun x : UInt32 × UInt32 × PartitionInfo => x.2.1.toNat = i).map
      fun x => Entity.partition x.1)
    h.links.partitions
  simpa only [List.filter_map, List.map_map, Function.comp_def] using hmap

theorem Built.allPartitions (h : Built rules infos listing names t report) :
    ∃ es, t.allPartitions = .ok es ∧ Presents infos listing names (partitionEntities infos.length listing) es := by
  rw [← h.partitions_entities]
  exact exists_mapM_presents fun p hp => h.monitoredPartition (h.links.perm_partitionsOf.mem_iff.mp hp)

theorem Built.selectedPartitions (h : Built rules infos listing names t report) {ids : List UInt32}
    (hids : ∀ id ∈ ids, id ∈ idsUnder .device listing) :
    ∃ es, t.selectedPartitions (.indices ids) = .ok es ∧
      Presents infos listing names (ids.map Entity.partition) es := by
  refine exists_mapM_presents fun id hid => ?_
  have hsome := (partition?_isSome h.links id).trans (decide_eq_true (hids id hid))
  obtain ⟨p, hp⟩ := Option.isSome_iff_exists.mp hsome
  obtain ⟨hmem, rfl⟩ := h.links.partition?_eq_some_iff.mp hp
  simp only [hp]
  exact h.monitoredPartition hmem

/-- The devices have the indices that say where they are. -/
def InOrder (infos : List DeviceInfo) : Prop :=
  infos.map DeviceInfo.index = (List.range infos.length).map UInt32.ofNat

theorem InOrder.index_eq (h : InOrder infos) {i : Nat} {info : DeviceInfo} (hi : infos[i]? = some info) :
    info.index = UInt32.ofNat i := by
  have hget := congrArg (fun l => l[i]?) h
  simp only [List.getElem?_map, hi, Option.map_some] at hget
  rw [List.getElem?_range (List.getElem?_eq_some_iff.mp hi).1, Option.map_some] at hget
  exact Option.some.inj hget

theorem Built.monitoredDevice (h : Built rules infos listing names t report) (horder : InOrder infos) {i : UInt32}
    {info : DeviceInfo} (hi : t.device? i = some info) :
    (monitoredDevice info).entity = Entity.device i ∧ Told infos listing names (monitoredDevice info) := by
  rw [device?, devices, h.links.devices] at hi
  have hindex : info.index = i := (horder.index_eq hi).trans UInt32.ofNat_toNat
  rw [Topology.monitoredDevice, hindex]
  exact ⟨rfl, .device hi⟩

theorem Built.allDevices (h : Built rules infos listing names t report) (horder : InOrder infos)
    (hsize : infos.length ≤ UInt32.size) :
    Presents infos listing names (deviceEntities infos.length) t.allDevices where
  entities := by
    have hmap := congrArg (List.map Entity.device) horder
    rw [Topology.allDevices, devices, h.links.devices, deviceEntities]
    simpa only [List.map_map, Function.comp_def, Topology.monitoredDevice] using hmap
  told := by
    intro e he
    obtain ⟨info, hmem, rfl⟩ := List.mem_map.mp he
    obtain ⟨i, hi⟩ := List.mem_iff_getElem?.mp hmem
    have hlt : i < UInt32.size := Nat.lt_of_lt_of_le
      (by simpa only [devices, h.links.devices] using (List.getElem?_eq_some_iff.mp hi).1) hsize
    refine (h.monitoredDevice horder (i := UInt32.ofNat i) ?_).2
    rwa [device?, UInt32.toNat_ofNat_of_lt' hlt]

theorem Built.selectedDevices (h : Built rules infos listing names t report) (horder : InOrder infos)
    {is : List UInt32} (his : ∀ i ∈ is, i.toNat < infos.length) :
    ∃ es, t.selectedDevices (.indices is) = .ok es ∧ Presents infos listing names (is.map Entity.device) es := by
  refine exists_mapM_presents fun i hi => ?_
  have hsome := (device?_isSome h.links i).trans (decide_eq_true (his i hi))
  obtain ⟨info, hinfo⟩ := Option.isSome_iff_exists.mp hsome
  simp only [hinfo]
  exact ⟨_, rfl, h.monitoredDevice horder hinfo⟩

/-- The rules name only what is there. -/
structure Satisfied (rules : SelectionRules) (count : Nat) (listing : List HierarchyEntry) : Prop where
  devices : ∀ i ∈ listed rules.devices, i.toNat < count
  partitions : ∀ id ∈ listed rules.partitions, id ∈ idsUnder .device listing

theorem Built.selected (h : Built rules infos listing names t report) (horder : InOrder infos)
    (hsize : infos.length ≤ UInt32.size) (hrules : Satisfied rules infos.length listing) :
    ∃ es, t.selected = .ok es ∧ Presents infos listing names (chosen rules infos.length listing) es := by
  rw [Topology.selected, h.rules, h.partitioning]
  rcases rules with - | ⟨d, - | - | ids⟩
  · rw [chosen]
    cases listing.isEmpty with
    | true => exact ⟨_, rfl, h.allDevices horder hsize⟩
    | false => exact h.allPartitions
  · rcases d with - | - | is
    · exact ⟨[], rfl, rfl, by simp⟩
    · exact ⟨_, rfl, h.allDevices horder hsize⟩
    · exact h.selectedDevices horder hrules.devices
  · exact h.allPartitions
  · exact h.selectedPartitions hrules.partitions

end Built

/-! ### No entity twice -/

section Chosen
variable {rules : SelectionRules} {count : Nat} {listing : List HierarchyEntry}

theorem nodup_deviceEntities (hsize : count ≤ UInt32.size) : (deviceEntities count).Nodup := by
  refine List.Nodup.map_on (fun i hi j hj heq => ?_) List.nodup_range
  have hi' := Nat.lt_of_lt_of_le (List.mem_range.mp hi) hsize
  have hj' := Nat.lt_of_lt_of_le (List.mem_range.mp hj) hsize
  rw [← UInt32.toNat_ofNat_of_lt' hi', device_inj heq, UInt32.toNat_ofNat_of_lt' hj']

theorem perm_partitionEntities (hparents : ∀ e ∈ under .device listing, e.parent.id.toNat < count) :
    (partitionEntities count listing).Perm ((idsUnder .device listing).map Entity.partition) := by
  have hperm : ((List.range count).flatMap fun i => (under .device listing).filter fun e => e.parent.id.toNat = i).Perm
      (under .device listing) :=
    perm_flatMap_filter List.nodup_range fun e he => List.mem_range.mpr (hparents e he)
  have hmap := hperm.map fun e => Entity.partition e.entity.id
  rw [List.map_flatMap] at hmap
  rw [idsUnder, List.map_map]
  exact hmap

theorem nodup_chosen (hsize : count ≤ UInt32.size)
    (hparents : ∀ e ∈ under .device listing, e.parent.id.toNat < count) (hids : (idsUnder .device listing).Nodup)
    (hd : (listed rules.devices).Nodup) (hp : (listed rules.partitions).Nodup) :
    (chosen rules count listing).Nodup := by
  have hdevices := nodup_deviceEntities hsize
  have hpartitions : (partitionEntities count listing).Nodup :=
    (perm_partitionEntities hparents).nodup_iff.mpr (hids.map fun _ _ => partition_inj)
  rcases rules with - | ⟨d, - | - | ids⟩
  · rw [chosen]
    split
    · exact hdevices
    · exact hpartitions
  · rcases d with - | - | is
    · exact List.nodup_nil
    · exact hdevices
    · exact hd.map fun _ _ => device_inj
  · exact hpartitions
  · exact hp.map fun _ _ => partition_inj

/-- All partitions are those whose numbers are listed, if these are all numbers. -/
theorem perm_chosen_listed {ids : List UInt32} (hall : rules.partitions = some .all)
    (hparents : ∀ e ∈ under .device listing, e.parent.id.toNat < count) (hids : (idsUnder .device listing).Nodup)
    (hnodup : ids.Nodup) (hmem : ∀ id, id ∈ ids ↔ id ∈ idsUnder .device listing) :
    (chosen rules count listing).Perm (chosen (.explicit rules.devices (some (.indices ids))) count listing) := by
  have hchosen : chosen rules count listing = partitionEntities count listing := by
    rcases rules with - | ⟨d, p⟩
    · exact absurd hall (Option.some_ne_none _).symm
    · obtain rfl : p = some .all := hall
      rfl
  have hperm : (idsUnder .device listing).Perm ids :=
    (List.perm_ext_iff_of_nodup hids hnodup).mpr fun id => (hmem id).symm
  rw [hchosen]
  exact (perm_partitionEntities hparents).trans (hperm.map Entity.partition)

end Chosen

/-! ### What a build promises -/

namespace Answers

/-- What the devices are taken to be. -/
def devices (a : Answers) : List DeviceInfo := List.zipWith taken (List.range a.total.toNat) a.infos

/-- The names that were told, none if they were not. -/
def told (a : Answers) : List (Entity × String) := a.names.toOption.getD []

end Answers

/-- The manager tells of every device the index that it was asked for. -/
def TellsIndices {σ : Type} (m : DeviceManager σ) : Prop :=
  ∀ i s info, (m.deviceInfo i s).1 = .ok info → info.index = i

section Build
variable {σ : Type} {m : DeviceManager σ} {rules : SelectionRules} {permit : Bool} {s s' : σ} {t : Topology}
  {report : BuildReport} {a : Answers}

theorem length_devices_answers : (answers m s).devices.length = (answers m s).total.toNat := by
  rw [Answers.devices, List.length_zipWith, List.length_range]
  exact (congrArg _ ((length_askEach _ _ _).trans List.length_range)).trans (Nat.min_self _)

theorem TellsIndices.map_index_taken (h : TellsIndices m) (is : List Nat) (s : σ) :
    (List.zipWith taken is (askEach m.deviceInfo is s).1).map DeviceInfo.index = is.map UInt32.ofNat := by
  induction is generalizing s with
  | nil => rfl
  | cons i is ih =>
    rw [askEach, List.zipWith_cons_cons, List.map_cons, List.map_cons, ih]
    congr 1
    cases hinfo : (m.deviceInfo (UInt32.ofNat i) s).1 with
    | ok info => exact h _ _ _ hinfo
    | error e => rfl

theorem TellsIndices.inOrder (h : TellsIndices m) (s : σ) : InOrder (answers m s).devices := by
  rw [InOrder, length_devices_answers]
  exact h.map_index_taken _ _

theorem firstMissing_eq_none_iff {there : UInt32 → Prop} [DecidablePred there] {sel : Option Selection} :
    firstMissing (fun i => decide (there i)) sel = none ↔ ∀ i ∈ listed sel, there i := by
  rw [firstMissing_eq_find?, List.find?_eq_none]
  simp

/-- The checks have no fault if those of the answers have none and the rules name only what is there. -/
theorem firstFault_checks_eq_none_iff :
    firstFault (checks rules permit a) = none ↔
      firstFault (checks .flex permit a) = none ∧ Satisfied rules a.total.toNat a.entries := by
  have hrules : firstFault (ruleFaults a.total.toNat a.entries rules) = none ↔
      Satisfied rules a.total.toNat a.entries := by
    rw [ruleFaults, firstFault_cons, firstFault_cons, firstFault_nil, Option.or_none, Option.or_eq_none_iff,
      Option.map_eq_none_iff, Option.map_eq_none_iff, firstMissing_eq_none_iff, firstMissing_eq_none_iff]
    exact ⟨fun h => ⟨h.1, h.2⟩, fun h => ⟨h.devices, h.partitions⟩⟩
  have hflex : firstFault (ruleFaults a.total.toNat a.entries .flex) = none := rfl
  have hsplit : firstFault (checks rules permit a) =
      (firstFault (checks .flex permit a)).or (firstFault (ruleFaults a.total.toNat a.entries rules)) := by
    simp only [checks, firstFault_append, hflex, Option.or_none]
  rw [hsplit, Option.or_eq_none_iff, hrules]

theorem built_of_build (h : build m rules permit s = (.ok (t, report), s')) :
    firstFault (checks rules permit (answers m s)) = none ∧
      Built rules (answers m s).devices (answers m s).entries (answers m s).told t report := by
  have hends : Ends _ _ (build m rules permit s).1 := build_ends m rules permit s
  rw [h] at hends
  obtain ⟨names, -, hnames, hbuilt⟩ := hends.of_ok
  have htold : (answers m s).told = names := by rw [Answers.told, hnames]; rfl
  refine ⟨hends.exists_ok_iff.mp ⟨_, rfl⟩, ?_⟩
  rw [htold]
  exact hbuilt

/-- After a build, all that the rules select is there, with what was told of it. -/
theorem selected_of_build (hindex : TellsIndices m) (h : build m rules permit s = (.ok (t, report), s')) :
    ∃ es, t.selected = .ok es ∧
      Presents (answers m s).devices (answers m s).entries (answers m s).told
        (chosen rules (answers m s).total.toNat (answers m s).entries) es := by
  obtain ⟨hnone, hbuilt⟩ := built_of_build h
  have hsize : (answers m s).devices.length ≤ UInt32.size := by
    rw [length_devices_answers]
    exact Nat.le_of_lt (UInt32.toNat_lt _)
  have hrules := (firstFault_checks_eq_none_iff.mp hnone).2
  rw [← length_devices_answers] at hrules ⊢
  exact hbuilt.selected (hindex.inOrder s) hsize hrules

/-- Other rules that name only what is there can be built with, too. -/
theorem exists_build_of_satisfied {rules' : SelectionRules} (h : build m rules permit s = (.ok (t, report), s'))
    (hrules : Satisfied rules' (answers m s).total.toNat (answers m s).entries) :
    ∃ t' report' u, build m rules' permit s = (.ok (t', report'), u) := by
  have hanswers := (firstFault_checks_eq_none_iff.mp (built_of_build h).1).1
  have hends : Ends _ _ (build m rules' permit s).1 := build_ends m rules' permit s
  obtain ⟨⟨t', report'⟩, hok⟩ := hends.exists_ok_iff.mpr (firstFault_checks_eq_none_iff.mpr ⟨hanswers, hrules⟩)
  exact ⟨t', report', _, Prod.ext hok rfl⟩

theorem listed_pairwise {text : String} (hparse : SelectionRules.parse text = .ok rules) (c : SelectableClass) :
    (listed (rules.selectionOf c)).Pairwise (· < ·) := by
  have hcanonical := (SelectionRules.parse_eq_ok_iff.mp hparse).canonical (SelectionRules.tokens_ne_nil text)
  cases hsel : rules.selectionOf c with
  | none => exact .nil
  | some sel =>
    cases hcanonical.proper hsel with
    | all => exact .nil
    | indices _ hasc => exact hasc

/-- After a build with rules that were read, the selection succeeds and has each entity that the rules name
    once and in order: all of a class by device and as listed, or the listed indices, which ascend. Naming
    all partitions and listing their numbers selects the same. -/
theorem build_selected {text : String} (hindex : TellsIndices m) (hparse : SelectionRules.parse text = .ok rules)
    (hbuild : build m rules permit s = (.ok (t, report), s')) :
    let a := answers m s
    ∃ es, t.selected = .ok es ∧
      Presents a.devices a.entries a.told (chosen rules a.total.toNat a.entries) es ∧
      (es.map MonitoredEntity.entity).Nodup ∧
      (listed rules.devices).Pairwise (· < ·) ∧ (listed rules.partitions).Pairwise (· < ·) ∧
      ∀ text' ids, rules.partitions = some .all →
        SelectionRules.parse text' = .ok (.explicit rules.devices (some (.indices ids))) →
        (∀ id, id ∈ ids ↔ id ∈ idsUnder .device a.entries) →
        ∃ t' report' u es', build m (.explicit rules.devices (some (.indices ids))) permit s = (.ok (t', report'), u) ∧
          t'.selected = .ok es' ∧ es.Perm es' := by
  intro a
  obtain ⟨hnone, hbuilt⟩ := built_of_build hbuild
  obtain ⟨es, hes, hpresents⟩ := selected_of_build hindex hbuild
  have hparents : ∀ e ∈ under .device a.entries, e.parent.id.toNat < a.total.toNat := by
    rw [← length_devices_answers]
    exact hbuilt.parent_lt
  have hsize : a.total.toNat ≤ UInt32.size := Nat.le_of_lt (UInt32.toNat_lt _)
  have hd := listed_pairwise hparse .device
  have hp := listed_pairwise hparse .partition
  have hnodup : (chosen rules a.total.toNat a.entries).Nodup :=
    nodup_chosen hsize hparents hbuilt.ids_nodup (hd.imp UInt32.ne_of_lt) (hp.imp UInt32.ne_of_lt)
  refine ⟨es, hes, hpresents, hpresents.entities ▸ hnodup, hd, hp, fun text' ids hall hparse' hids => ?_⟩
  have hsatisfied : Satisfied (.explicit rules.devices (some (.indices ids))) a.total.toNat a.entries :=
    { devices := (firstFault_checks_eq_none_iff.mp hnone).2.devices
      partitions := fun id => (hids id).mp }
  obtain ⟨t', report', u, hbuild'⟩ := exists_build_of_satisfied hbuild hsatisfied
  obtain ⟨es', hes', hpresents'⟩ := selected_of_build hindex hbuild'
  have hnodup' := (listed_pairwise hparse' .partition).imp UInt32.ne_of_lt
  have hsame := perm_chosen_listed hall hparents hbuilt.ids_nodup hnodup' hids
  exact ⟨t', report', u, es', hbuild', hes', hpresents.perm hpresents' hbuilt.ids_nodup hsame hnodup⟩

theorem build_selected_twoDevices :
    let rules := SelectionRules.explicit (some (.indices [1])) (some .all)
    let rules' := SelectionRules.explicit (some (.indices [1])) (some (.indices [4, 7]))
    SelectionRules.parse "g:1;i" = .ok rules ∧ SelectionRules.parse "i:7,4;g:1" = .ok rules' ∧
    ∃ t report t' report' es es', build twoDevices rules false () = (.ok (t, report), ()) ∧
      build twoDevices rules' false () = (.ok (t', report'), ()) ∧ t.selected = .ok es ∧ t'.selected = .ok es' ∧
      es.map MonitoredEntity.entity = [Entity.partition 4, Entity.partition 7] ∧ es.Perm es' := by
  intro rules rules'
  have hindex : TellsIndices twoDevices := by
    rintro i s info ⟨⟩
    rfl
  have hparse : SelectionRules.parse "g:1;i" = .ok rules := by decide
  have hparse' : SelectionRules.parse "i:7,4;g:1" = .ok rules' := by decide
  have hids (id : UInt32) : id ∈ [4, 7] ↔ id ∈ [7, 4] := by simp [or_comm]
  obtain ⟨t, report, hbuild⟩ : ∃ t report, build twoDevices rules false () = (.ok (t, report), ()) := ⟨_, _, rfl⟩
  obtain ⟨es, hes, hpresents, -, -, -, hlisted⟩ := build_selected hindex hparse hbuild
  obtain ⟨t', report', ⟨⟩, es', hbuild', hes', hperm⟩ := hlisted _ [4, 7] rfl hparse' hids
  exact ⟨hparse, hparse', t, report, t', report', es, es', hbuild, hbuild', hes, hes', hpresents.entities, hperm⟩

end Build
end Topology
end Telemetry
