import Telemetry.Pipeline.Setup
import Telemetry.Proofs.Slots

/-! Devices that are told of in another way. But for the index of a device, nothing of what is told of it has a say in
    how a topology is built, what is selected from it and which groups a collector makes; so of two managers that
    differ in this alone, the one gives what the other gives, with its devices as it tells of them. -/

namespace Telemetry
variable {σ ε ε' α β γ : Type}

/-! ### Results seen through a function -/

namespace Action
variable {f : α → β} {x : Action σ ε α} {s : σ}

theorem map_apply (f : α → β) (x : Action σ ε α) (s : σ) : (f <$> x) s = ((x s).1.map f, (x s).2) := by
  rw [← bind_pure_comp, bind_apply]
  rcases x s with ⟨e | a, t⟩ <;> rfl

theorem mapFault_map (g : ε → ε') (f : α → β) (x : Action σ ε α) : mapFault g (f <$> x) = f <$> mapFault g x := by
  funext s
  rw [map_apply, mapFault, mapFault, map_apply]
  rcases x s with ⟨e | a, t⟩ <;> rfl

theorem undoing_map (f : α → β) (x : Action σ ε α) (undo : σ → σ) :
    undoing (f <$> x) undo = f <$> undoing x undo := by
  funext s
  rw [map_apply, undoing, undoing, map_apply]
  rcases x s with ⟨e | a, t⟩ <;> rfl

theorem ofExcept_map (f : α → β) (r : Except ε α) : (ofExcept (r.map f) : Action σ ε β) = f <$> ofExcept r := by
  funext s
  rw [map_apply]
  rfl

end Action

theorem mapM_map_result {m : Type → Type} [Monad m] [LawfulMonad m] (f : β → γ) (g : α → m β) (l : List α) :
    l.mapM (fun a => f <$> g a) = List.map f <$> l.mapM g := by
  induction l with
  | nil => simp
  | cons a l ih => simp [ih]

/-! ### Managers -/

/-- The second manager tells of devices what the first does, seen through a function; their readings aside, there is
    no other difference between them. -/
structure DeviceManager.Relabels (f : DeviceInfo → DeviceInfo) (m m' : DeviceManager σ) : Prop where
  connect : m'.connect = m.connect
  disconnect : m'.disconnect = m.disconnect
  deviceCount : m'.deviceCount = m.deviceCount
  deviceInfo : ∀ i, m'.deviceInfo i = f <$> m.deviceInfo i
  hierarchy : m'.hierarchy = m.hierarchy
  resolveNames : m'.resolveNames = m.resolveNames
  createGroup : m'.createGroup = m.createGroup
  destroyGroup : m'.destroyGroup = m.destroyGroup
  createFieldGroup : m'.createFieldGroup = m.createFieldGroup
  destroyFieldGroup : m'.destroyFieldGroup = m.destroyFieldGroup
  watchFields : m'.watchFields = m.watchFields

/-- The function leaves indices alone, and placeholders altogether. -/
structure DeviceInfo.KeepsIndices (f : DeviceInfo → DeviceInfo) : Prop where
  index : ∀ info, (f info).index = info.index
  placeholder : ∀ i, f (DeviceInfo.placeholder i) = DeviceInfo.placeholder i

/-! ### Forests -/

namespace Forest
variable (f : DeviceInfo → DeviceInfo)

def relabelled (forest : Forest) : Forest :=
  { forest with devices := forest.devices.map fun d => { d with info := f d.info } }

variable {f} {forest : Forest}

theorem relabelled_partitionSlots : (forest.relabelled f).partitionSlots = forest.partitionSlots := rfl

theorem relabelled_subPartitionSlots : (forest.relabelled f).subPartitionSlots = forest.subPartitionSlots := rfl

theorem relabelled_addPartition (device id : UInt32) (info : PartitionInfo) :
    (forest.relabelled f).addPartition device id info = (forest.addPartition device id info).relabelled f := by
  rw [addPartition, addPartition, relabelled, relabelled, map_modify (k := fun d : DeviceNode =>
    { d with partitions := d.partitions ++ [forest.partitions.length] }) fun _ => rfl]

theorem relabelled_attach (e : HierarchyEntry) :
    (forest.relabelled f).attach e = (forest.attach e).map (relabelled f) := by
  rw [attach, attach]
  split
  · rw [attachPartition, attachPartition, relabelled, List.getElem?_map]
    cases forest.devices[e.parent.id.toNat]? with
    | none => rfl
    | some d =>
      dsimp only [Option.map_some]
      split
      · rfl
      · exact congrArg Except.ok (relabelled_addPartition ..)
  · rw [attachSubPartition, attachSubPartition]
    rw [relabelled_partitionSlots, relabelled_subPartitionSlots]
    cases forest.partitionSlots.lookup e.parent.id with
    | none => rfl
    | some parent =>
      dsimp only
      split <;> rfl
  · rfl

theorem relabelled_attachAll (es : List HierarchyEntry) :
    (forest.relabelled f).attachAll es = (forest.attachAll es).map (relabelled f) := by
  induction es generalizing forest with
  | nil => rfl
  | cons e es ih =>
    rw [attachAll, attachAll, relabelled_attach]
    cases forest.attach e with
    | error e => rfl
    | ok forest => exact ih

theorem relabelled_rename? (entity : Entity) (name : String) :
    (forest.relabelled f).rename? entity name = (forest.rename? entity name).map (relabelled f) := by
  rw [rename?, rename?]
  split <;> simp [relabelled, Function.comp_def]

theorem relabelled_renameAll (names : List (Entity × String)) :
    (forest.relabelled f).renameAll names =
      ((forest.renameAll names).1.relabelled f, (forest.renameAll names).2) := by
  induction names generalizing forest with
  | nil => rfl
  | cons x names ih =>
    obtain ⟨entity, name⟩ := x
    rw [renameAll, renameAll, relabelled_rename?]
    cases forest.rename? entity name with
    | none => simp only [Option.map_none, ih]
    | some forest => exact ih

theorem relabelled_resolve (names : List (Entity × String)) :
    (forest.relabelled f).resolve names = ((forest.resolve names).1.relabelled f, (forest.resolve names).2) := by
  rw [resolve, resolve, relabelled_renameAll]
  rfl

end Forest

/-! ### Topologies -/

/-- The entity with its device seen through a function. -/
def MonitoredEntity.relabelled (f : DeviceInfo → DeviceInfo) (e : MonitoredEntity) : MonitoredEntity :=
  { e with device := f e.device }

namespace Topology
variable (f : DeviceInfo → DeviceInfo)

def relabelled (t : Topology) : Topology := { t with forest := t.forest.relabelled f }

variable {f} {t : Topology} {m m' : DeviceManager σ}

theorem relabelled_rules : (t.relabelled f).rules = t.rules := rfl

theorem relabelled_partitioning : (t.relabelled f).partitioning = t.partitioning := rfl

theorem relabelled_partition? (id : UInt32) : (t.relabelled f).partition? id = t.partition? id := rfl

theorem relabelled_devices : (t.relabelled f).devices = t.devices.map f := by
  rw [devices, devices, relabelled, Forest.relabelled, List.map_map, List.map_map]
  rfl

theorem relabelled_device? (i : UInt32) : (t.relabelled f).device? i = (t.device? i).map f := by
  rw [device?, device?, relabelled_devices, List.getElem?_map]

theorem relabelled_validate : (t.relabelled f).validate = t.validate := by
  have hdevice (i : UInt32) : ((t.relabelled f).device? i).isSome = (t.device? i).isSome := by
    rw [relabelled_device?, Option.isSome_map]
  rw [validate, validate]
  simp only [hdevice]
  rfl

theorem relabelled_monitoredPartition (p : PartitionNode) :
    (t.relabelled f).monitoredPartition p = (t.monitoredPartition p).map (MonitoredEntity.relabelled f) := by
  rw [monitoredPartition, monitoredPartition, deviceOf?, relabelled_device?, deviceOf?]
  cases t.device? p.device <;> rfl

theorem relabelled_allPartitions :
    (t.relabelled f).allPartitions = (t.allPartitions).map (List.map (MonitoredEntity.relabelled f)) := by
  have hpartitions : (t.relabelled f).partitions = t.partitions := by
    rw [partitions, partitions, relabelled, Forest.relabelled, List.flatMap_map]
    rfl
  rw [allPartitions, allPartitions, hpartitions, funext relabelled_monitoredPartition]
  exact mapM_map_result ..

section Select
variable (hindex : ∀ info, (f info).index = info.index)
include hindex

theorem relabelled_monitoredDevice (d : DeviceInfo) : monitoredDevice (f d) = (monitoredDevice d).relabelled f := by
  rw [monitoredDevice, monitoredDevice, hindex]
  rfl

theorem relabelled_allDevices : (t.relabelled f).allDevices = t.allDevices.map (MonitoredEntity.relabelled f) := by
  rw [allDevices, allDevices, relabelled_devices, List.map_map, List.map_map]
  exact List.map_congr_left fun d _ => relabelled_monitoredDevice hindex d

theorem relabelled_selectedDevices (sel : Selection) :
    (t.relabelled f).selectedDevices sel =
      (t.selectedDevices sel).map (List.map (MonitoredEntity.relabelled f)) := by
  cases sel with
  | all => exact congrArg Except.ok (relabelled_allDevices hindex)
  | indices is =>
    rw [selectedDevices, selectedDevices]
    refine Eq.trans ?_ (mapM_map_result ..)
    congr 1
    funext i
    rw [relabelled_device?]
    cases t.device? i with
    | none => rfl
    | some d => exact congrArg Except.ok (relabelled_monitoredDevice hindex d)

end Select

theorem relabelled_selectedPartitions (sel : Selection) :
    (t.relabelled f).selectedPartitions sel =
      (t.selectedPartitions sel).map (List.map (MonitoredEntity.relabelled f)) := by
  cases sel with
  | all => exact relabelled_allPartitions
  | indices is =>
    rw [selectedPartitions, selectedPartitions]
    refine Eq.trans ?_ (mapM_map_result ..)
    congr 1
    funext i
    rw [relabelled_partition?]
    cases t.partition? i with
    | none => rfl
    | some p => exact relabelled_monitoredPartition p

theorem relabelled_selected (hindex : ∀ info, (f info).index = info.index) :
    (t.relabelled f).selected = t.selected.map (List.map (MonitoredEntity.relabelled f)) := by
  rw [selected, selected]
  rw [relabelled_rules, relabelled_partitioning]
  rcases t.rules with - | ⟨d, - | p⟩
  · dsimp only
    split
    · exact relabelled_allPartitions
    · exact congrArg Except.ok (relabelled_allDevices hindex)
  · cases d with
    | none => rfl
    | some d => exact relabelled_selectedDevices hindex d
  · exact relabelled_selectedPartitions p

/-! ### Building -/

section Build
variable (hkeeps : DeviceInfo.KeepsIndices f) (h : m.Relabels f m')
include h

theorem ofDevices_relabelled (rules : SelectionRules) (infos : List DeviceInfo) :
    ofDevices m' rules (infos.map f) = (fun x => (x.1.relabelled f, x.2)) <$> ofDevices m rules infos := by
  have hstart : ({ devices := (infos.map f).map fun info => { info } } : Forest) =
      ({ devices := infos.map fun info => { info } } : Forest).relabelled f := by
    rw [Forest.relabelled, List.map_map, List.map_map]
    rfl
  rw [ofDevices, ofDevices, h.hierarchy, hstart]
  simp only [map_bind, Forest.relabelled_attachAll, Action.ofExcept_map, bind_map_left]
  -- The managers are asked the same, so what is left to compare is what is done with each answer.
  congr 1
  funext listing
  congr 1
  funext forest
  rw [h.resolveNames]
  congr 1
  funext names
  let t : Topology := { forest := (forest.resolve names).1, partitioning := !listing.isEmpty, rules }
  have hvalidate : (t.relabelled f).validate = t.validate := relabelled_validate
  rw [Forest.relabelled_resolve, map_pure]
  exact congrArg (fun valid => Action.ofExcept valid >>= fun _ => pure (t.relabelled f, _)) hvalidate

include hkeeps

theorem readDevice_relabelled (permit : Bool) (i : UInt32) :
    readDevice m' permit i = f <$> readDevice m permit i := by
  funext s
  rw [Action.map_apply, readDevice, readDevice, h.deviceInfo, Action.map_apply]
  rcases m.deviceInfo i s with ⟨e | info, t⟩
  · dsimp only [Except.map]
    split
    · exact congrArg (fun info => (Except.ok info, t)) (hkeeps.placeholder i).symm
    · rfl
  · rfl

theorem readDevices_relabelled (permit : Bool) (count : Nat) :
    readDevices m' permit count = List.map f <$> readDevices m permit count := by
  rw [readDevices, readDevices]
  simp only [readDevice_relabelled hkeeps h, Action.mapFault_map]
  exact mapM_map_result ..

theorem build_relabelled (rules : SelectionRules) (permit : Bool) :
    build m' rules permit = (fun x => (x.1.relabelled f, x.2)) <$> build m rules permit := by
  rw [build, build, h.deviceCount, map_bind]
  congr 1
  funext count
  split
  · exact Action.ofExcept_map _ (.error _)
  · rw [readDevices_relabelled hkeeps h, bind_map_left, map_bind]
    simp only [ofDevices_relabelled h]

end Build
end Topology

/-! ### Collectors -/

variable {m m' : DeviceManager σ} {f : DeviceInfo → DeviceInfo}

theorem DeviceManager.Relabels.startWatch_eq (h : m.Relabels f m') (name : String) (entities : List Entity)
    (fields : List FieldId) (intervalMs : Nat) :
    m'.startWatch name entities fields intervalMs = m.startWatch name entities fields intervalMs := by
  have hstop : m'.stopWatch = m.stopWatch := by
    funext w s
    rw [stopWatch, stopWatch, h.destroyGroup, h.destroyFieldGroup]
  rw [startWatch, startWatch, h.createGroup, h.createFieldGroup, h.destroyGroup, h.watchFields, hstop]

/-- The collector with its devices seen through a function. -/
def Collector.relabelled (f : DeviceInfo → DeviceInfo) (c : Collector) : Collector :=
  { c with entities := c.entities.map (MonitoredEntity.relabelled f) }

theorem Collector.start_relabelled (h : m.Relabels f m') (hindex : ∀ info, (f info).index = info.index) (t : Topology)
    (counters : List Counter) (options : CollectorOptions) :
    start m' (t.relabelled f) counters options = relabelled f <$> start m t counters options := by
  rw [start, start, Topology.relabelled_selected hindex, Action.ofExcept_map, bind_map_left, map_bind]
  congr 1
  funext entities
  rw [List.map_map, h.startWatch_eq, map_bind]
  simp only [map_pure]
  rfl

namespace Setup

/-- What was set up with its devices seen through a function. -/
def relabelled (f : DeviceInfo → DeviceInfo) (setup : Setup) : Setup :=
  { setup with collector := setup.collector.relabelled f, topology := setup.topology.relabelled f }

/-- From a manager that tells of devices in another way, the same is set up but for what it tells of them, and what
    fails does so in the same way. -/
theorem run_relabelled (hkeeps : DeviceInfo.KeepsIndices f) (h : m.Relabels f m') (o : SetupOptions)
    (catalog : Except CatalogError (List Counter)) : run m' o catalog = relabelled f <$> run m o catalog := by
  have hsession : inSession m' o catalog = relabelled f <$> inSession m o catalog := by
    rw [inSession, inSession, Topology.build_relabelled hkeeps h, Action.mapFault_map, bind_map_left, map_bind]
    congr 1
    funext ⟨t, report⟩
    dsimp only
    rw [map_bind]
    congr 1
    funext counters
    rw [Collector.start_relabelled h hkeeps.index, Action.mapFault_map, bind_map_left, map_bind]
    simp only [map_pure]
    rfl
  rw [run, run, hsession, h.connect, h.disconnect, Action.undoing_map, map_bind]

theorem relabelled_id (setup : Setup) : setup.relabelled id = setup := by
  have hentities : setup.collector.entities.map (MonitoredEntity.relabelled id) = setup.collector.entities :=
    List.map_id _
  have hdevices : (setup.topology.forest.devices.map fun d => { d with info := id d.info }) =
      setup.topology.forest.devices := List.map_id _
  rw [relabelled, Collector.relabelled, Topology.relabelled, Forest.relabelled, hentities, hdevices]

end Setup
end Telemetry
