import Mathlib.Data.List.Nodup
import Telemetry.Proofs.Ending
import Telemetry.Proofs.Topology.Linking

/-! The faults of a listing. Whether an entry is refused, and why, can be told from the number of
    devices and the entries before it, without the forest that they make. Attaching a listing ends with
    the first fault of its entries, or else with a forest that has the links of the listing. -/

namespace Telemetry

namespace Forest

/-- The fault of an entry of a listing, after entries without fault. -/
def entryFault (count : Nat) (earlier : List HierarchyEntry) (e : HierarchyEntry) : Option TopologyError :=
  match e.parent.cls with
  | .device =>
    if count ≤ e.parent.id.toNat then some (.unknownParentDevice e.entity e.parent.id)
    else if e.entity.id ∈ idsUnder .device earlier then some (.duplicateEntity e.entity)
    else none
  | .partition =>
    if e.parent.id ∉ idsUnder .device earlier then some (.unknownParentPartition e.entity e.parent.id)
    else if e.entity.id ∈ idsUnder .partition earlier then some (.duplicateEntity e.entity)
    else none
  | _ => none

/-- The faults of the entries of a listing that goes on after some entries. -/
def listingFaults (count : Nat) : List HierarchyEntry → List HierarchyEntry → List (Option TopologyError)
  | _, [] => []
  | earlier, e :: es => entryFault count earlier e :: listingFaults count (earlier ++ [e]) es

namespace Links
variable {infos : List DeviceInfo} {es : List HierarchyEntry} {f : Forest}

theorem partition_ids (h : Links infos es f) :
    f.partitions.map PartitionNode.id = idsUnder .device es := by
  have hids := congrArg (List.map Prod.fst) h.partitions
  simpa only [List.map_map, Function.comp_def, idsUnder] using hids

theorem subPartition_ids (h : Links infos es f) :
    f.subPartitions.map SubPartitionNode.id = idsUnder .partition es := by
  have hids := congrArg (List.map Prod.fst) h.subPartitions
  simpa only [List.map_map, Function.comp_def, idsUnder] using hids

theorem lookup_partition_isSome (h : Links infos es f) {id : UInt32} :
    (f.partitionSlots.lookup id).isSome = true ↔ id ∈ idsUnder .device es := by
  rw [h.partitionSlots.isSome_iff, h.partition_ids]

theorem lookup_partition_eq_none (h : Links infos es f) {id : UInt32} :
    f.partitionSlots.lookup id = none ↔ id ∉ idsUnder .device es := by
  rw [h.partitionSlots.eq_none_iff, h.partition_ids]

theorem lookup_subPartition_isSome (h : Links infos es f) {id : UInt32} :
    (f.subPartitionSlots.lookup id).isSome = true ↔ id ∈ idsUnder .partition es := by
  rw [h.subPartitionSlots.isSome_iff, h.subPartition_ids]

theorem lookup_subPartition_eq_none (h : Links infos es f) {id : UInt32} :
    f.subPartitionSlots.lookup id = none ↔ id ∉ idsUnder .partition es := by
  rw [h.subPartitionSlots.eq_none_iff, h.subPartition_ids]

theorem attachedPartition (h : Links infos es f) {e : HierarchyEntry} (hclass : e.parent.cls = .device) :
    Ends (Links infos (es ++ [e])) (entryFault infos.length es e) (f.attachPartition e.parent.id e.entity e.info) := by
  rw [entryFault, hclass, attachPartition]
  by_cases hdevice : infos.length ≤ e.parent.id.toNat
  · rw [if_pos hdevice, List.getElem?_eq_none (h.length_devices ▸ hdevice)]
    exact .fails _
  · have hlt : e.parent.id.toNat < infos.length := Nat.lt_of_not_le hdevice
    rw [if_neg hdevice, List.getElem?_eq_getElem (h.length_devices ▸ hlt)]
    by_cases hid : e.entity.id ∈ idsUnder .device es
    · rw [if_pos hid]
      simp only [h.lookup_partition_isSome, if_pos hid]
      exact .fails _
    · have hnew := h.lookup_partition_eq_none.mpr hid
      rw [if_neg hid]
      simp only [hnew, Option.isSome_none, Bool.false_eq_true, if_false]
      exact .gives (h.addPartition hclass hlt hnew)

theorem attachedSubPartition (h : Links infos es f) {e : HierarchyEntry} (hclass : e.parent.cls = .partition) :
    Ends (Links infos (es ++ [e])) (entryFault infos.length es e)
      (f.attachSubPartition e.parent.id e.entity e.info) := by
  rw [entryFault, hclass, attachSubPartition]
  cases hparent : f.partitionSlots.lookup e.parent.id with
  | none =>
    rw [if_pos (h.lookup_partition_eq_none.mp hparent)]
    exact .fails _
  | some parent =>
    have hknown := h.lookup_partition_isSome.mp (Option.isSome_of_eq_some hparent)
    simp only [not_not.mpr hknown, if_false]
    by_cases hid : e.entity.id ∈ idsUnder .partition es
    · simp only [if_pos hid, h.lookup_subPartition_isSome]
      exact .fails _
    · have hnew := h.lookup_subPartition_eq_none.mpr hid
      simp only [if_neg hid, hnew, Option.isSome_none, Bool.false_eq_true, if_false]
      exact .gives (h.addSubPartition hclass hparent hnew)

/-- One entry is attached, or refused with its fault. -/
theorem attached (h : Links infos es f) (e : HierarchyEntry) :
    Ends (Links infos (es ++ [e])) (entryFault infos.length es e) (f.attach e) := by
  rw [attach]
  split
  · exact h.attachedPartition ‹_›
  · exact h.attachedSubPartition ‹_›
  · rename_i hdevice hpartition
    have hnone : entryFault infos.length es e = none := by
      rw [entryFault]
      split
      · exact absurd ‹_› hdevice
      · exact absurd ‹_› hpartition
      · rfl
    rw [hnone]
    exact .gives (h.passOver hdevice hpartition)

/-- A whole listing is attached, or refused with the first fault of its entries. -/
theorem attachedAll (h : Links infos es f) (rest : List HierarchyEntry) :
    Ends (Links infos (es ++ rest)) (firstFault (listingFaults infos.length es rest)) (f.attachAll rest) := by
  induction rest generalizing es f with
  | nil =>
    rw [List.append_nil]
    exact .gives h
  | cons e rest ih =>
    have hrest (g : Forest) (hg : Links infos (es ++ [e]) g) := ih hg
    rw [List.append_assoc] at hrest
    rw [listingFaults, attachAll, firstFault_cons]
    exact (h.attached e).bind hrest

end Links

-- A parent that is listed after its child comes too late for it.
example (info : PartitionInfo) :
    firstFault (listingFaults 1 []
      [{ parent := .partition 7, entity := .subPartition 4, info },
        { parent := .device 0, entity := .partition 7, info }]) =
      some (.unknownParentPartition (.subPartition 4) 7) := rfl

/-- An entry with a parent of another class is as good as not listed. -/
theorem attachAll_filter (f : Forest) (es : List HierarchyEntry) :
    f.attachAll es = f.attachAll (es.filter fun e => e.parent.cls = .device ∨ e.parent.cls = .partition) := by
  induction es generalizing f with
  | nil => rfl
  | cons e es ih =>
    by_cases h : e.parent.cls = .device ∨ e.parent.cls = .partition
    · rw [List.filter_cons_of_pos (by simpa using h), attachAll, attachAll]
      exact congrArg (f.attach e >>= ·) (funext fun g => ih g)
    · have hskip : f.attach e = .ok f := by
        rw [attach]
        split
        · exact absurd (.inl ‹_›) h
        · exact absurd (.inr ‹_›) h
        · rfl
      rw [List.filter_cons_of_neg (by simpa using h), attachAll, hskip]
      exact ih f

/-! ### Listings without fault -/

/-- Every entry under a partition comes after that partition. -/
def ParentsFirst (es : List HierarchyEntry) : Prop :=
  ∀ before e after, es = before ++ e :: after → e.parent.cls = .partition → e.parent.id ∈ idsUnder .device before

section ParentsFirst
variable {es es' : List HierarchyEntry} {count : Nat} {earlier : List HierarchyEntry}

theorem idsUnder_append (cls : EntityClass) (es es' : List HierarchyEntry) :
    idsUnder cls (es ++ es') = idsUnder cls es ++ idsUnder cls es' := by
  rw [idsUnder, under, List.filter_append, List.map_append]
  rfl

theorem ParentsFirst.append (h : ParentsFirst es) (h' : ParentsFirst es') : ParentsFirst (es ++ es') := by
  intro before e after hsplit hclass
  rcases List.append_eq_append_iff.mp hsplit with ⟨mid, rfl, hrest⟩ | ⟨mid, rfl, hrest⟩
  · rw [idsUnder_append]
    exact List.mem_append_right _ (h' mid e after hrest hclass)
  · cases mid with
    | nil => exact absurd (h' [] e after hrest.symm hclass) List.not_mem_nil
    | cons x mid =>
      obtain ⟨rfl, rfl⟩ := List.cons.inj hrest
      exact h before e mid rfl hclass

theorem ParentsFirst.flatMap {α : Type} {l : List α} {f : α → List HierarchyEntry} (h : ∀ a ∈ l, ParentsFirst (f a)) :
    ParentsFirst (l.flatMap f) := by
  induction l with
  | nil =>
    intro before e after hsplit
    simp at hsplit
  | cons a l ih =>
    obtain ⟨ha, hl⟩ := List.forall_mem_cons.mp h
    rw [List.flatMap_cons]
    exact ha.append (ih hl)

theorem firstFault_listingFaults_eq_none (h : ∀ before e after, es = before ++ e :: after →
    entryFault count (earlier ++ before) e = none) : firstFault (listingFaults count earlier es) = none := by
  induction es generalizing earlier with
  | nil => rfl
  | cons e es ih =>
    have hfirst := h [] e es rfl
    rw [List.append_nil] at hfirst
    rw [listingFaults, firstFault_cons, hfirst, Option.none_or]
    refine ih fun before x after hsplit => ?_
    rw [List.append_assoc]
    exact h (e :: before) x after (congrArg (e :: ·) hsplit)

/-- A listing in which parents come first has no fault if no number comes twice in it. -/
theorem faultless_of_nodup (hparents : ∀ e ∈ under .device es, e.parent.id.toNat < count) (hfirst : ParentsFirst es)
    (hids : (idsUnder .device es).Nodup) (hsub : (idsUnder .partition es).Nodup) :
    firstFault (listingFaults count [] es) = none := by
  refine firstFault_listingFaults_eq_none fun before e after hsplit => ?_
  have hnew (cls : EntityClass) (hclass : e.parent.cls = cls) (hnodup : (idsUnder cls es).Nodup) :
      e.entity.id ∉ idsUnder cls before := by
    have hhead : idsUnder cls (e :: after) = e.entity.id :: idsUnder cls after := by
      rw [idsUnder, under, List.filter_cons_of_pos (by simp [hclass])]
      rfl
    rw [hsplit, idsUnder_append, hhead, List.nodup_middle, List.nodup_cons, List.mem_append, not_or] at hnodup
    exact hnodup.1.1
  rw [List.nil_append, entryFault]
  split
  · rename_i hclass
    have hlt := hparents e (List.mem_filter.mpr ⟨by simp [hsplit], by simp [hclass]⟩)
    rw [if_neg (Nat.not_le.mpr hlt), if_neg (hnew .device hclass hids)]
  · rename_i hclass
    rw [if_neg (not_not.mpr (hfirst before e after hsplit hclass)), if_neg (hnew .partition hclass hsub)]
  · rfl

/-- No number comes twice in a listing without fault. -/
theorem nodup_of_faultless (h : firstFault (listingFaults count [] es) = none) :
    (idsUnder .device es).Nodup ∧ (idsUnder .partition es).Nodup := by
  have hends := (Links.start (List.replicate count default)).attachedAll es
  rw [List.length_replicate, h] at hends
  obtain ⟨f, hf⟩ := hends.exists_ok_iff.mpr rfl
  rw [hf] at hends
  have hlinks := hends.of_ok
  rw [List.nil_append] at hlinks
  rw [← hlinks.partition_ids, ← hlinks.subPartition_ids]
  exact ⟨hlinks.partitionSlots.nodup, hlinks.subPartitionSlots.nodup⟩

end ParentsFirst
end Forest
end Telemetry
