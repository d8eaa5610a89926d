import Telemetry.Proofs.Topology.Selecting

/-! The report of a build. Every name that is told for an entity goes to that entity or is reported as astray, and of
    what has its place the entities without a name are reported as missing one, after all names have been told. -/

namespace Telemetry
namespace Forest

/-- The last name that was told of an entity, empty if none was. -/
def lastName (names : List (Entity × String)) (e : Entity) : String :=
  ((names.filter fun x => x.1 = e).getLast?.map Prod.snd).getD ""

theorem nameAfter_eq_getD (names : List (Entity × String)) (e : Entity) (former : String) :
    nameAfter names e former = ((names.filter fun x => x.1 = e).getLast?.map Prod.snd).getD former := by
  induction names generalizing former with
  | nil => rfl
  | cons x names ih =>
    rw [nameAfter_cons, ih]
    by_cases hx : x.1 = e
    · rw [if_pos hx, List.filter_cons_of_pos (by simpa using hx), List.getLast?_cons]
      cases (names.filter fun x => x.1 = e).getLast? <;> rfl
    · rw [if_neg hx, List.filter_cons_of_neg (by simpa using hx)]

/-- A last name that is not empty was told of just this entity. -/
theorem mem_of_lastName_ne {names : List (Entity × String)} {e : Entity} (h : lastName names e ≠ "") :
    (e, lastName names e) ∈ names := by
  rw [lastName] at h ⊢
  cases hlast : (names.filter fun x => x.1 = e).getLast? with
  | none =>
    rw [hlast] at h
    exact absurd rfl h
  | some x =>
    obtain ⟨hmem, hentity⟩ := List.mem_filter.mp (List.mem_of_getLast? hlast)
    obtain rfl := of_decide_eq_true hentity
    exact hmem

variable {f g : Forest} {entity : Entity} {name : String}

/-! ### Names that go astray -/

theorem mem_entities_iff :
    entity ∈ f.entities ↔
      (∃ p ∈ f.partitions, entity = Entity.partition p.id) ∨
        ∃ s ∈ f.subPartitions, entity = Entity.subPartition s.id := by
  simp only [entities, List.mem_append, List.mem_map, eq_comm]

theorem entities_of_nameless_eq (h : g.nameless = f.nameless) : g.entities = f.entities := by
  rw [entities, entities, map_partitions_of_nameless_eq h _ fun _ _ => rfl,
    map_subPartitions_of_nameless_eq h _ fun _ _ => rfl]

/-- A name has its place if and only if its entity is in the forest. -/
theorem Numbered.isSome_rename? (h : Numbered f) (entity : Entity) (name : String) :
    (f.rename? entity name).isSome = true ↔ entity ∈ f.entities := by
  obtain ⟨cls, id⟩ := entity
  rw [mem_entities_iff]
  cases cls with
  | partition =>
    have hsome := h.partitions.isSome_iff (k := id)
    simp only [List.mem_map] at hsome
    simp only [rename?, Option.isSome_map, hsome, Entity.partition, Entity.subPartition, Entity.mk.injEq]
    simp [eq_comm]
  | subPartition =>
    have hsome := h.subPartitions.isSome_iff (k := id)
    simp only [List.mem_map] at hsome
    simp only [rename?, Option.isSome_map, hsome, Entity.partition, Entity.subPartition, Entity.mk.injEq]
    simp [eq_comm]
  | _ => simp [rename?, Entity.partition, Entity.subPartition]

/-- The names that have no place are those of entities that are not in the forest, as often as they are told. -/
theorem Numbered.renameAll_snd (h : Numbered f) (names : List (Entity × String)) :
    (f.renameAll names).2 = (names.filter fun x => x.1 ∉ f.entities).map Prod.fst := by
  induction names generalizing f with
  | nil => rfl
  | cons x names ih =>
    obtain ⟨entity, name⟩ := x
    have hplace := h.isSome_rename? entity name
    have hnext := h.rename?_getD entity name
    rw [renameAll]
    cases hrename : f.rename? entity name with
    | some g =>
      rw [hrename, Option.getD_some] at hnext
      subst hnext
      have hentities := entities_of_nameless_eq (nameless_rename? hrename)
      rw [hrename] at hplace
      rw [List.filter_cons_of_neg (by simpa using hplace.mp rfl), ← hentities]
      exact ih (h.named _)
    | none =>
      rw [hrename] at hplace
      have hnot : entity ∉ f.entities := fun hmem => Bool.false_ne_true (hplace.mpr hmem)
      rw [List.filter_cons_of_pos (by simpa using hnot), List.map_cons, ← ih h]

/-! ### Names that are missing -/

theorem isNameless_partition {infos : List DeviceInfo} {es : List HierarchyEntry} (h : Links infos es f)
    {p : PartitionNode} (hp : p ∈ f.partitions) : f.isNameless (Entity.partition p.id) = decide (p.profile = "") := by
  have hfind : f.partition? p.id = some p := h.partition?_eq_some_iff.mpr ⟨hp, rfl⟩
  rw [isNameless, Entity.partition]
  dsimp only
  rw [hfind, Option.any_some, Bool.eq_iff_iff, decide_eq_true_iff, String.isEmpty_iff]

theorem isNameless_subPartition {infos : List DeviceInfo} {es : List HierarchyEntry} (h : Links infos es f)
    {s : SubPartitionNode} (hs : s ∈ f.subPartitions) :
    f.isNameless (Entity.subPartition s.id) = decide (s.profile = "") := by
  have hfind : f.subPartition? s.id = some s := h.subPartition?_eq_some_iff.mpr ⟨hs, rfl⟩
  rw [isNameless, Entity.subPartition]
  dsimp only
  rw [hfind, Option.any_some, Bool.eq_iff_iff, decide_eq_true_iff, String.isEmpty_iff]

/-- The entities without a name: partitions, then partitions of partitions. -/
def namelessEntities (f : Forest) : List Entity :=
  (f.partitions.filter fun p => p.profile = "").map (fun p => Entity.partition p.id) ++
    (f.subPartitions.filter fun s => s.profile = "").map fun s => Entity.subPartition s.id

theorem nodup_entities {infos : List DeviceInfo} {es : List HierarchyEntry} (h : Links infos es f) :
    f.entities.Nodup := by
  refine List.nodup_append.mpr ⟨?_, ?_, fun a ha b hb heq => ?_⟩
  · have hids := h.partitionSlots.nodup.map (f := Entity.partition) fun _ _ heq => congrArg Entity.id heq
    rwa [List.map_map] at hids
  · have hids := h.subPartitionSlots.nodup.map (f := Entity.subPartition) fun _ _ heq => congrArg Entity.id heq
    rwa [List.map_map] at hids
  · obtain ⟨p, -, rfl⟩ := List.mem_map.mp ha
    obtain ⟨s, -, rfl⟩ := List.mem_map.mp hb
    cases heq

theorem filter_isNameless {infos : List DeviceInfo} {es : List HierarchyEntry} (h : Links infos es f) :
    f.entities.filter f.isNameless = f.namelessEntities := by
  rw [entities, List.filter_append, List.filter_map, List.filter_map, namelessEntities]
  congr 2
  · exact List.filter_congr fun p hp => isNameless_partition h hp
  · exact List.filter_congr fun s hs => isNameless_subPartition h hs

end Forest

namespace Topology
open Forest

variable {σ : Type} {m : DeviceManager σ} {rules : SelectionRules} {permit : Bool} {s s' : σ} {t : Topology}
  {report : BuildReport} {infos : List DeviceInfo} {listing : List HierarchyEntry} {names : List (Entity × String)}

theorem Built.unresolved_eq (h : Built rules infos listing names t report) :
    report.unresolved =
      (names.filter fun x => x.1 ∉ t.forest.entities).map (fun x => (x.1, .unknownEntity)) ++
        t.forest.namelessEntities.map fun e => (e, .missing) := by
  obtain ⟨f, hlinks, -, hresolve⟩ := h.forest
  have hforest : (f.renameAll names).1 = t.forest := congrArg Prod.fst hresolve
  have hentities : t.forest.entities = f.entities := hforest ▸ entities_of_nameless_eq (nameless_renameAll f names)
  have hreport := congrArg (fun x => x.2.unresolved) hresolve
  dsimp only [resolve] at hreport
  rw [← hreport, hforest, ← filter_isNameless h.links, hentities, hlinks.numbered.renameAll_snd, List.map_map]
  rfl

/-- A build gives every partition, and every partition of a partition, the last name that was told of just this
    entity, and the empty one if none was. Its report has first every name of an entity that is not in the topology,
    in the order of telling and as often as it was told, and then every entity whose name is empty in the end, once
    and in the order of the listing, partitions before the partitions of these. So it is complete if and only if all
    entities have names and no name went astray. -/
theorem build_reports_names (h : build m rules permit s = (.ok (t, report), s')) :
    ∃ listing names, (answers m s).listing = .ok listing ∧ (answers m s).names = .ok names ∧
      t.forest.partitions.map PartitionNode.id = idsUnder .device listing ∧
      t.forest.subPartitions.map SubPartitionNode.id = idsUnder .partition listing ∧
      (∀ p ∈ t.forest.partitions, p.profile = lastName names (Entity.partition p.id) ∧
        (p.profile ≠ "" → (Entity.partition p.id, p.profile) ∈ names)) ∧
      (∀ p ∈ t.forest.subPartitions, p.profile = lastName names (Entity.subPartition p.id) ∧
        (p.profile ≠ "" → (Entity.subPartition p.id, p.profile) ∈ names)) ∧
      report.unresolved =
        (names.filter fun x => x.1 ∉ t.forest.entities).map (fun x => (x.1, .unknownEntity)) ++
          t.forest.namelessEntities.map (fun e => (e, .missing)) ∧
      t.forest.namelessEntities.Nodup ∧
      (report.isComplete = true ↔
        (∀ p ∈ t.forest.partitions, p.profile ≠ "") ∧ (∀ p ∈ t.forest.subPartitions, p.profile ≠ "") ∧
          ∀ x ∈ names, x.1 ∈ t.forest.entities) := by
  have hends : Ends _ _ (build m rules permit s).1 := build_ends m rules permit s
  rw [h] at hends
  obtain ⟨names, hlisting, hnames, hbuilt⟩ := hends.of_ok
  have hunresolved := hbuilt.unresolved_eq
  refine ⟨_, names, hlisting, hnames, hbuilt.links.partition_ids, hbuilt.links.subPartition_ids, fun p hp => ?_,
    fun p hp => ?_, hunresolved, ?_, ?_⟩
  · have hprofile : p.profile = lastName names (Entity.partition p.id) :=
      (hbuilt.profile_eq hp).trans (nameAfter_eq_getD _ _ _)
    refine ⟨hprofile, fun hne => ?_⟩
    rw [hprofile] at hne ⊢
    exact mem_of_lastName_ne hne
  · have hprofile : p.profile = lastName names (Entity.subPartition p.id) :=
      (hbuilt.subProfile_eq hp).trans (nameAfter_eq_getD _ _ _)
    refine ⟨hprofile, fun hne => ?_⟩
    rw [hprofile] at hne ⊢
    exact mem_of_lastName_ne hne
  · rw [← filter_isNameless hbuilt.links]
    exact (nodup_entities hbuilt.links).filter _
  · have hnone : t.forest.namelessEntities = [] ↔
        (∀ p ∈ t.forest.partitions, p.profile ≠ "") ∧ ∀ p ∈ t.forest.subPartitions, p.profile ≠ "" := by
      simp only [namelessEntities, List.append_eq_nil_iff, List.map_eq_nil_iff, List.filter_eq_nil_iff,
        decide_eq_true_iff, ne_eq]
    have hplaced : (names.filter fun x => x.1 ∉ t.forest.entities) = [] ↔ ∀ x ∈ names, x.1 ∈ t.forest.entities := by
      simp only [List.filter_eq_nil_iff, decide_eq_true_iff, Decidable.not_not]
    rw [BuildReport.isComplete, List.isEmpty_iff, hunresolved, List.append_eq_nil_iff, List.map_eq_nil_iff,
      List.map_eq_nil_iff, hnone, hplaced, and_comm, and_assoc]

/-- Names for `twoDevices`, some of them astray and one of them taken back. -/
def changingNames : List (Entity × String) :=
  [(.partition 4, "1g.5gb"), (.device 0, "T4"), (.subPartition 4, "1c.1g.5gb"), (.partition 9, "2g.10gb"),
    (.partition 7, "2g.10gb"), (.partition 4, ""), (.device 0, "A100")]

/-- The report has three names that went astray, and the partition whose last name is empty although a partition of
    a partition with its number has one. -/
theorem build_reports_names_changing :
    let m : DeviceManager Unit := { twoDevices with resolveNames := fun _ => pure changingNames }
    ∃ t report, build m .flex false () = (.ok (t, report), ()) ∧
      (∃ p ∈ t.forest.partitions, p.id = 4 ∧ p.profile = lastName changingNames (Entity.partition 4)) ∧
      lastName changingNames (Entity.partition 4) = "" ∧
      report.unresolved =
        [(.device 0, .unknownEntity), (.partition 9, .unknownEntity), (.device 0, .unknownEntity),
          (.partition 4, .missing)] ∧
      report.isComplete = false := by
  intro m
  obtain ⟨t, report, hbuild, hentities, hnameless, p, hp, hid⟩ : ∃ t report,
      build m .flex false () = (.ok (t, report), ()) ∧
        t.forest.entities = [.partition 7, .partition 4, .subPartition 4] ∧
        t.forest.namelessEntities = [.partition 4] ∧ ∃ p ∈ t.forest.partitions, p.id = 4 :=
    ⟨_, _, rfl, rfl, by decide, by decide⟩
  obtain ⟨listing, names, -, hnames, -, -, hprofiles, -, hunresolved, -, -⟩ := build_reports_names hbuild
  obtain rfl : changingNames = names := Except.ok.inj hnames
  have hprofile := (hprofiles p hp).1
  rw [hid] at hprofile
  rw [hentities, hnameless] at hunresolved
  refine ⟨t, report, hbuild, ⟨p, hp, hid, hprofile⟩, by decide, hunresolved, ?_⟩
  rw [BuildReport.isComplete, hunresolved]
  rfl

end Topology
end Telemetry
