import Telemetry.Proofs.Ending
import Telemetry.Proofs.Topology.Linking

/-! The names of profiles. Every name that is told goes to the entity that it is told for, if it is in the
    forest; of two names for one entity the later counts, and an entity without any has the empty name. -/

namespace Telemetry
namespace Forest

/-- The name of an entity once names were told one after the other, given its former name. -/
def nameAfter (names : List (Entity × String)) (e : Entity) (former : String) : String :=
  names.foldl (fun name x => if x.1 = e then x.2 else name) former

theorem nameAfter_cons (x : Entity × String) (names : List (Entity × String)) (e : Entity) (former : String) :
    nameAfter (x :: names) e former = nameAfter names e (if x.1 = e then x.2 else former) := rfl

/-- An entity has the name that is told of it whenever it is named, if there is one. -/
theorem nameAfter_filterMap (es : List Entity) (told? : Entity → Option String) (e : Entity) (former : String) :
    nameAfter (es.filterMap fun e => (told? e).map fun name => (e, name)) e former =
      if e ∈ es then (told? e).getD former else former := by
  induction es generalizing former with
  | nil => rfl
  | cons x es ih =>
    by_cases hx : x = e
    · subst hx
      cases htold : told? x with
      | none => simp [htold, ih]
      | some name => simp [htold, nameAfter_cons, ih]
    · have hmem : e ∈ x :: es ↔ e ∈ es := by simp [Ne.symm hx]
      cases htold : told? x with
      | none => simp only [List.filterMap_cons, htold, Option.map_none, ih, hmem]
      | some name => simp only [List.filterMap_cons, htold, Option.map_some, nameAfter_cons, if_neg hx, ih, hmem]

/-- With the names that were told. -/
def named (f : Forest) (names : List (Entity × String)) : Forest :=
  { f with
    partitions := f.partitions.map fun p =>
      { p with profile := nameAfter names (Entity.partition p.id) p.profile }
    subPartitions := f.subPartitions.map fun s =>
      { s with profile := nameAfter names (Entity.subPartition s.id) s.profile } }

/-- The places by numbers lead to every entity. -/
structure Numbered (f : Forest) : Prop where
  partitions : Indexes (fun id => f.partitionSlots.lookup id) (f.partitions.map PartitionNode.id)
  subPartitions : Indexes (fun id => f.subPartitionSlots.lookup id) (f.subPartitions.map SubPartitionNode.id)

theorem Links.numbered {infos : List DeviceInfo} {es : List HierarchyEntry} {f : Forest} (h : Links infos es f) :
    Numbered f := ⟨h.partitionSlots, h.subPartitionSlots⟩

section Named
variable {f : Forest} {name : String} {names : List (Entity × String)}

theorem map_partitions_named {β : Type} (k : PartitionNode → β) (hk : ∀ p name, k { p with profile := name } = k p) :
    (f.named names).partitions.map k = f.partitions.map k := by
  simp only [named, List.map_map, Function.comp_def, hk]

theorem map_subPartitions_named {β : Type} (k : SubPartitionNode → β)
    (hk : ∀ s name, k { s with profile := name } = k s) :
    (f.named names).subPartitions.map k = f.subPartitions.map k := by
  simp only [named, List.map_map, Function.comp_def, hk]

theorem Numbered.named (h : Numbered f) (names : List (Entity × String)) : Numbered (f.named names) := by
  constructor
  · rw [map_partitions_named _ fun _ _ => rfl]
    exact h.partitions
  · rw [map_subPartitions_named _ fun _ _ => rfl]
    exact h.subPartitions

theorem named_nil : f.named [] = f := by
  have hp : f.partitions.map (fun p => p) = f.partitions := List.map_id _
  have hs : f.subPartitions.map (fun s => s) = f.subPartitions := List.map_id _
  simp only [named, nameAfter, List.foldl_nil, hp, hs]

theorem named_cons (x : Entity × String) : (f.named [x]).named names = f.named (x :: names) := by
  simp only [named, nameAfter, List.map_map, Function.comp_def, List.foldl_cons, List.foldl_nil]

theorem partitions_named_of_ne {x : Entity × String} (h : ∀ p ∈ f.partitions, x.1 ≠ Entity.partition p.id) :
    (f.named [x]).partitions = f.partitions := by
  refine (List.map_congr_left fun p hp => ?_).trans (List.map_id _)
  simp [nameAfter, h p hp]

theorem subPartitions_named_of_ne {x : Entity × String} (h : ∀ s ∈ f.subPartitions, x.1 ≠ Entity.subPartition s.id) :
    (f.named [x]).subPartitions = f.subPartitions := by
  refine (List.map_congr_left fun s hs => ?_).trans (List.map_id _)
  simp [nameAfter, h s hs]

theorem Numbered.partitions_named (h : Numbered f) {id : UInt32} {slot : Nat}
    (hslot : f.partitionSlots.lookup id = some slot) :
    (f.named [(Entity.partition id, name)]).partitions =
      f.partitions.modify slot fun p => { p with profile := name } := by
  rw [h.partitions.modify_eq_map hslot]
  refine List.map_congr_left fun p _ => ?_
  by_cases hid : id = p.id
  · simp [nameAfter, hid]
  · simp [nameAfter, Entity.partition, hid, Ne.symm hid]

theorem Numbered.subPartitions_named (h : Numbered f) {id : UInt32} {slot : Nat}
    (hslot : f.subPartitionSlots.lookup id = some slot) :
    (f.named [(Entity.subPartition id, name)]).subPartitions =
      f.subPartitions.modify slot fun s => { s with profile := name } := by
  rw [h.subPartitions.modify_eq_map hslot]
  refine List.map_congr_left fun s _ => ?_
  by_cases hid : id = s.id
  · simp [nameAfter, hid]
  · simp [nameAfter, Entity.subPartition, hid, Ne.symm hid]

theorem named_eq {x : Entity × String} {ps : List PartitionNode} {ss : List SubPartitionNode}
    (hp : (f.named [x]).partitions = ps) (hs : (f.named [x]).subPartitions = ss) :
    f.named [x] = { f with partitions := ps, subPartitions := ss } := by
  subst hp hs
  rfl

/-- A name that finds its entity goes to it, and a name that finds none changes nothing. -/
theorem Numbered.rename?_getD (h : Numbered f) (entity : Entity) (name : String) :
    (f.rename? entity name).getD f = f.named [(entity, name)] := by
  obtain ⟨cls, id⟩ := entity
  have hpartitions (hcls : cls ≠ .partition) : (f.named [(⟨cls, id⟩, name)]).partitions = f.partitions :=
    partitions_named_of_ne fun p _ heq => hcls (congrArg Entity.cls heq)
  have hsubPartitions (hcls : cls ≠ .subPartition) : (f.named [(⟨cls, id⟩, name)]).subPartitions = f.subPartitions :=
    subPartitions_named_of_ne fun s _ heq => hcls (congrArg Entity.cls heq)
  cases cls with
  | partition =>
    have hs := hsubPartitions (by decide)
    cases hslot : f.partitionSlots.lookup id with
    | none =>
      have hnot : id ∉ f.partitions.map PartitionNode.id := h.partitions.eq_none_iff.mp hslot
      have hp : (f.named [(⟨.partition, id⟩, name)]).partitions = f.partitions :=
        partitions_named_of_ne fun p hp heq => hnot (List.mem_map.mpr ⟨p, hp, (congrArg Entity.id heq).symm⟩)
      rw [named_eq hp hs]
      simp [rename?, hslot]
    | some slot =>
      rw [named_eq (x := (⟨.partition, id⟩, name)) (h.partitions_named hslot) hs]
      simp [rename?, hslot]
  | subPartition =>
    have hp := hpartitions (by decide)
    cases hslot : f.subPartitionSlots.lookup id with
    | none =>
      have hnot : id ∉ f.subPartitions.map SubPartitionNode.id := h.subPartitions.eq_none_iff.mp hslot
      have hs : (f.named [(⟨.subPartition, id⟩, name)]).subPartitions = f.subPartitions :=
        subPartitions_named_of_ne fun s hs heq => hnot (List.mem_map.mpr ⟨s, hs, (congrArg Entity.id heq).symm⟩)
      rw [named_eq hp hs]
      simp [rename?, hslot]
    | some slot =>
      rw [named_eq (x := (⟨.subPartition, id⟩, name)) hp (h.subPartitions_named hslot)]
      simp [rename?, hslot]
  | _ => exact (named_eq (hpartitions (by decide)) (hsubPartitions (by decide))).symm

/-- All names that are told, one after the other. -/
theorem Numbered.renameAll_fst (h : Numbered f) (names : List (Entity × String)) :
    (f.renameAll names).1 = f.named names := by
  induction names generalizing f with
  | nil => exact named_nil.symm
  | cons x names ih =>
    obtain ⟨entity, name⟩ := x
    have hstep := h.rename?_getD entity name
    rw [← named_cons, renameAll]
    split
    · rename_i g hg
      rw [hg, Option.getD_some] at hstep
      rw [hstep, ih (h.named _)]
    · rename_i hnone
      rw [hnone, Option.getD_none] at hstep
      rw [← hstep]
      exact ih h

end Named

/-! ### Before any name is told -/

/-- No entity has a name yet. -/
structure Unnamed (f : Forest) : Prop where
  partitions : ∀ p ∈ f.partitions, p.profile = ""
  subPartitions : ∀ s ∈ f.subPartitions, s.profile = ""

section Unnamed
variable {f g : Forest}

theorem Unnamed.addPartition (h : Unnamed f) (device id : UInt32) (info : PartitionInfo) :
    Unnamed (f.addPartition device id info) where
  partitions := by
    intro p hp
    rcases List.mem_append.mp hp with hp | hp
    · exact h.partitions p hp
    · rw [List.mem_singleton.mp hp]
  subPartitions := h.subPartitions

theorem Unnamed.addSubPartition (h : Unnamed f) (parent : Nat) (id : UInt32) (info : PartitionInfo) :
    Unnamed (f.addSubPartition parent id info) where
  partitions := by
    have hprofiles : (f.addSubPartition parent id info).partitions.map PartitionNode.profile =
        f.partitions.map PartitionNode.profile := Links.map_addSubPartition _ fun _ _ => rfl
    intro p hp
    have hmem := List.mem_map_of_mem (f := PartitionNode.profile) hp
    rw [hprofiles] at hmem
    obtain ⟨q, hq, hprofile⟩ := List.mem_map.mp hmem
    rw [← hprofile, h.partitions q hq]
  subPartitions := by
    intro s hs
    rcases List.mem_append.mp hs with hs | hs
    · exact h.subPartitions s hs
    · rw [List.mem_singleton.mp hs]

theorem Unnamed.attach (h : Unnamed f) {e : HierarchyEntry} (he : f.attach e = .ok g) : Unnamed g := by
  unfold Forest.attach attachPartition attachSubPartition at he
  repeat' split at he
  all_goals cases he
  · exact h.addPartition _ _ _
  · exact h.addSubPartition _ _ _
  · exact h

theorem Unnamed.attachAll (h : Unnamed f) {es : List HierarchyEntry} (hes : f.attachAll es = .ok g) : Unnamed g := by
  induction es generalizing f with
  | nil =>
    cases hes
    exact h
  | cons e es ih =>
    obtain ⟨next, hnext, hes⟩ := bind_eq_ok_iff.mp hes
    exact ih (h.attach hnext) hes

theorem unnamed_start (infos : List DeviceInfo) : Unnamed { devices := infos.map fun info => { info } } :=
  ⟨by simp, by simp⟩

end Unnamed
end Forest
end Telemetry
