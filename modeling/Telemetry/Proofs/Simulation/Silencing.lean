import Telemetry.Proofs.Exposition.Withholding
import Telemetry.Proofs.Simulation.Locating
import Telemetry.Proofs.Topology.Relabelling

/-! Silenced devices. A device that no longer supports a field, or that is described as unsupported, has no reading of
    it: whatever its description fixes, a sentinel of the field's type stands there, and no sentinel is shown. So of
    what is collected and written, just the samples of the silenced fields on that device are missing. -/

namespace Telemetry
namespace Simulation
open Exposition (Shown layout textOf render)

/-! ### Descriptions -/

/-- How a device is silenced: for the field with a name, or as a whole. -/
inductive Silencing where
  | field (name : String)
  | device
  deriving DecidableEq, Repr

namespace Silencing

/-- The device as it is described afterwards. -/
def apply : Silencing → SimulatedDevice → SimulatedDevice
  | field name, d => { d with notSupported := d.notSupported ++ [name] }
  | device, d => { d with supported := false }

/-- The names of the fields that are known of every device. -/
def knownOfAll : List String := ["DCGM_FI_DRIVER_VERSION", "DCGM_FI_DEV_NAME", "DCGM_FI_DEV_UUID"]

/-- Whether the field with this name is silenced. -/
def covers : Silencing → String → Bool
  | field silenced, name => name == silenced && !knownOfAll.contains name
  | device, name => !knownOfAll.contains name

theorem covers_of_known {x : Silencing} {name : String} (h : name ∈ knownOfAll) : x.covers name = false := by
  have hcontains : knownOfAll.contains name = true := List.contains_iff_mem.mpr h
  cases x <;> rw [covers, hcontains] <;> simp

/-- What is told of a device once the one at this place is silenced. -/
def info (x : Silencing) (place : Nat) (i : DeviceInfo) : DeviceInfo :=
  match x with
  | field _ => i
  | device => if i.index.toNat = place then { i with supported := false } else i

end Silencing

/-- The description with the device at a place silenced. -/
def silenced (sim : Simulation) (x : Silencing) (place : Nat) : Simulation :=
  { devices := sim.devices.modify place x.apply }

variable {sim : Simulation} {x : Silencing} {place : Nat} {e : Entity} {f : Field} {fields : List Field}

/-! ### Where entities are -/

theorem getElem?_silenced (i : Nat) :
    (sim.silenced x place).devices[i]? = (sim.devices[i]?).map fun d => if place = i then x.apply d else d :=
  List.getElem?_modify ..

theorem getElem?_indexed_eq {α : Type} (xs : List α) (i : Nat) : (indexed xs)[i]? = (xs[i]?).map (i, ·) := by
  cases hx : xs[i]? with
  | some x => exact getElem?_indexed hx
  | none =>
    rw [Option.map_none, indexed, List.getElem?_eq_none_iff, List.length_zip, List.length_range, Nat.min_self]
    exact List.getElem?_eq_none_iff.mp hx

/-- What is not told of the readings of devices is told of silenced ones, too. -/
theorem flatMap_indexed_silenced {α : Type} {g : Nat × SimulatedDevice → List α}
    (hg : ∀ i d, g (i, x.apply d) = g (i, d)) :
    (indexed (sim.silenced x place).devices).flatMap g = (indexed sim.devices).flatMap g := by
  have hindexed : indexed (sim.silenced x place).devices =
      (indexed sim.devices).map fun y => (y.1, if place = y.1 then x.apply y.2 else y.2) := by
    refine List.ext_getElem? fun i => ?_
    rw [List.getElem?_map, getElem?_indexed_eq, getElem?_indexed_eq, getElem?_silenced, Option.map_map,
      Option.map_map]
    rfl
  rw [hindexed, List.flatMap_map]
  refine List.flatMap_congr fun y _ => ?_
  split
  · exact hg y.1 y.2
  · rfl

theorem index_silenced (sim : Simulation) (x : Silencing) (place : Nat) : (sim.silenced x place).index = sim.index :=
  flatMap_indexed_silenced fun i d => by cases x <;> rfl

theorem hierarchy_silenced (sim : Simulation) (x : Silencing) (place : Nat) :
    (sim.silenced x place).hierarchy = sim.hierarchy :=
  flatMap_indexed_silenced fun i d => by cases x <;> rfl

theorem locate?_silenced (sim : Simulation) (x : Silencing) (place : Nat) :
    (sim.silenced x place).locate? = sim.locate? := by
  funext e
  rw [locate?, locate?, index_silenced]

/-- What stands at a place, silenced or not. -/
def Place.silencedIf (on : Bool) (x : Silencing) (p : Place) : Place :=
  { p with device := if on then x.apply p.device else p.device }

theorem place?_silenced (l : Location) :
    (sim.silenced x place).place? l = (sim.place? l).map (Place.silencedIf (place == l.device) x) := by
  rw [place?, place?, getElem?_silenced]
  cases sim.devices[l.device]? with
  | none => rfl
  | some d =>
    have hon : (if place = l.device then x.apply d else d) = if place == l.device then x.apply d else d := by
      simp only [beq_iff_eq]
    have hpartitions : (if place == l.device then x.apply d else d).partitions = d.partitions := by
      split
      · cases x <;> rfl
      · rfl
    simp only [Option.map_some, Option.bind_eq_bind, Option.bind_some, hon, hpartitions]
    cases l.partition with
    | none => rfl
    | some p =>
      cases hp : d.partitions[p]? with
      | none => simp [hp]
      | some y =>
        cases l.subPartition with
        | none => simp [hp, Place.silencedIf]
        | some q => cases hq : y.subPartitions[q]? <;> simp [hp, hq, Place.silencedIf]

theorem placeOf?_silenced (e : Entity) :
    (sim.silenced x place).placeOf? e = (sim.placeOf? e).map (Place.silencedIf (sim.isOn place e) x) := by
  rw [placeOf?, placeOf?, locate?_silenced, isOn]
  cases sim.locate? e with
  | none => rfl
  | some l => exact place?_silenced l

/-! ### Readings -/

theorem known_iff (hf : f ∈ Field.table) :
    f.name ∈ Silencing.knownOfAll ↔
      f.id = Field.deviceName ∨ f.id = Field.deviceUuid ∨ f.id = Field.driverVersion := by
  have hknown : ∀ f ∈ Field.table, f.name ∈ Silencing.knownOfAll ↔
      f.id = Field.deviceName ∨ f.id = Field.deviceUuid ∨ f.id = Field.driverVersion := by decide +kernel
  exact hknown f hf

theorem valueAt_of_known (hf : f ∈ Field.table) (hknown : f.name ∈ Silencing.knownOfAll) (on : Bool) (p : Place)
    (tick : UInt64) : valueAt (p.silencedIf on x) e f tick = valueAt p e f tick := by
  have hname : (p.silencedIf on x).name? = p.name? := by cases on <;> cases x <;> rfl
  have huuid : (p.silencedIf on x).device.uuid = p.device.uuid := by cases on <;> cases x <;> rfl
  rw [valueAt, valueAt, hname, huuid]
  -- None of the three asks whether the device supports anything.
  rcases (known_iff hf).mp hknown with hid | hid | hid <;> rw [if_pos hid, if_pos hid]

/-- Of a silenced device a sentinel is read for the fields that are silenced, whatever its description fixes. -/
theorem valueAt_silencedIf (hf : f ∈ Field.table) (on : Bool) (p : Place) (tick : UInt64) :
    valueAt (p.silencedIf on x) e f tick =
      if on && x.covers f.name then notSupported f.type else valueAt p e f tick := by
  by_cases hknown : f.name ∈ Silencing.knownOfAll
  · rw [valueAt_of_known hf hknown, Silencing.covers_of_known hknown, Bool.and_false, if_neg Bool.false_ne_true]
  have hids := mt (known_iff hf).mpr hknown
  simp only [not_or] at hids
  obtain ⟨hname, huuid, hdriver⟩ := hids
  rw [valueAt, valueAt]
  simp only [if_neg hname, if_neg huuid, if_neg hdriver]
  cases on with
  | false => rfl
  | true =>
    -- A lack of support is asked for before a fixed reading, so what is fixed does not matter.
    cases x with
    | field silenced =>
      by_cases hsilenced : f.name = silenced
      · subst hsilenced
        simp [Place.silencedIf, Silencing.apply, Silencing.covers, hknown]
      · simp [Place.silencedIf, Silencing.apply, Silencing.covers, hsilenced]
    | device => simp [Place.silencedIf, Silencing.apply, Silencing.covers, hknown]

theorem valuesOf_silenced (tick : UInt64) :
    valuesOf (sim.silenced x place) e fields tick = (sim.placeOf? e).elim (.error (.unknownEntity e)) fun p =>
      .ok (fields.map fun f =>
        { entity := e, field := f.id, type := f.type,
          value := valueAt (p.silencedIf (sim.isOn place e) x) e f tick }) := by
  rw [valuesOf, ← placeOf?, placeOf?_silenced]
  cases sim.placeOf? e <;> rfl

/-! ### The manager -/

/-- Names are known of every device. -/
theorem reading_silenced_name (es : List Entity) (tick : UInt64) :
    (sim.silenced x place).reading es [Field.deviceName] tick = sim.reading es [Field.deviceName] tick := by
  have hfields : findFields [Field.deviceName] = .ok [nameField] := rfl
  have hfound : Field.byId? Field.deviceName = some nameField := rfl
  have hname : nameField ∈ Field.table := List.mem_of_find?_eq_some hfound
  have hknown : nameField.name ∈ Silencing.knownOfAll := by decide
  have hvalues (e : Entity) : valuesOf (sim.silenced x place) e [nameField] tick = valuesOf sim e [nameField] tick := by
    rw [valuesOf_silenced, valuesOf, ← placeOf?]
    cases sim.placeOf? e with
    | none => rfl
    | some p =>
      simp only [Option.elim_some, List.map_singleton, valueAt_of_known hname hknown]
  have hall (es : List Entity) :
      valuesOfAll (sim.silenced x place) [nameField] tick es = valuesOfAll sim [nameField] tick es := by
    induction es with
    | nil => rfl
    | cons e es ih => rw [valuesOfAll, valuesOfAll, hvalues, ih]
  rw [reading, reading, hfields]
  exact hall es

theorem deviceInfo_silenced (i : UInt32) :
    (sim.silenced x place).deviceInfo i = (sim.deviceInfo i).map (x.info place) := by
  rw [deviceInfo, deviceInfo, getElem?_silenced]
  cases sim.devices[i.toNat]? with
  | none => rfl
  | some d =>
    have hunavailable : (if place = i.toNat then x.apply d else d).unavailable = d.unavailable := by
      split
      · cases x <;> rfl
      · rfl
    simp only [Option.map_some, hunavailable]
    split
    · rfl
    · refine congrArg Except.ok ?_
      cases x with
      | field => split <;> rfl
      | device =>
        simp only [Silencing.info, eq_comm (a := i.toNat)]
        split <;> rfl

theorem keepsIndices_info (x : Silencing) (place : Nat) : DeviceInfo.KeepsIndices (x.info place) where
  index info := by
    cases x with
    | field => rfl
    | device =>
      rw [Silencing.info]
      split <;> rfl
  placeholder i := by
    cases x with
    | field => rfl
    | device =>
      rw [Silencing.info]
      split <;> rfl

theorem whenConnected_map {α β : Type} (f : α → β) (g : State → Except DeviceError α × State) :
    whenConnected (fun s => ((g s).1.map f, (g s).2)) = f <$> whenConnected g := by
  funext s
  rw [Action.map_apply, whenConnected, whenConnected]
  split <;> rfl

/-- But for what is told of the device itself, the manager of the silenced description differs in its readings only. -/
theorem relabels_silenced (sim : Simulation) (x : Silencing) (place : Nat) :
    sim.manager.Relabels (x.info place) (sim.silenced x place).manager where
  connect := rfl
  disconnect := rfl
  deviceCount := by
    have hlength : (sim.silenced x place).devices.length = sim.devices.length := List.length_modify ..
    rw [manager, manager, hlength]
  deviceInfo i := by
    change whenConnected (fun s => ((sim.silenced x place).deviceInfo i, s)) = _
    rw [deviceInfo_silenced]
    exact whenConnected_map (x.info place) fun s => (sim.deviceInfo i, s)
  hierarchy := by
    rw [manager, manager, hierarchy_silenced]
  resolveNames := by
    funext es
    have hreading : (sim.silenced x place).latestValues es [Field.deviceName] =
        sim.latestValues es [Field.deviceName] := by
      rw [latestValues, latestValues, funext (reading_silenced_name es)]
    change namesByReading _ es = namesByReading _ es
    rw [namesByReading, namesByReading, hreading]
  createGroup := by
    funext name es
    change createGroup _ es = createGroup _ es
    rw [createGroup, createGroup, locate?_silenced]
  destroyGroup := rfl
  createFieldGroup := rfl
  destroyFieldGroup := rfl
  watchFields := rfl

/-! ### Passes -/

/-- The fields are those of the counters, in their order. -/
def FieldsOf (counters : List Counter) (fields : List Field) : Prop :=
  List.Forall₂ (fun c f => f ∈ Field.table ∧ f.name = c.name) counters fields

theorem exists_fieldsOf {counters : List Counter} (h : ∀ c ∈ counters, Catalog.HasField c) :
    ∃ fields, findFields (Collector.fieldsOf counters) = .ok fields ∧ FieldsOf counters fields := by
  induction counters with
  | nil => exact ⟨[], rfl, .nil⟩
  | cons c counters ih =>
    obtain ⟨hc, hcounters⟩ := List.forall_mem_cons.mp h
    obtain ⟨f, hname, hid⟩ := hc
    obtain ⟨fields, hfields, hall⟩ := ih hcounters
    refine ⟨f :: fields, ?_, .cons ⟨List.mem_of_find?_eq_some hname, by simpa using List.find?_some hname⟩ hall⟩
    rw [Collector.fieldsOf] at hfields ⊢
    rw [List.map_cons, findFields, hid, Field.byId?_of_byName? hname, hfields]
    rfl

/-- No sentinel for a field that there is has a text. -/
theorem sample_notSupported (hf : f ∈ Field.table) :
    FieldValue.sample { entity := e, field := f.id, type := f.type, value := notSupported f.type } = none := by
  have htypes : ∀ f ∈ Field.table, f.type = .double ∨ f.type = .int64 ∨ f.type = .string := by decide +kernel
  have hdouble : Sentinel.isDouble (Sentinel.double .notSupported) = true := by decide
  have hint : Sentinel.isInt (Sentinel.int64 .notSupported) = true := by decide
  have hstring : Sentinel.isString (Sentinel.string .notSupported) = true := by decide
  rcases htypes f hf with htype | htype | htype
  · simp [htype, notSupported, FieldValue.sample, hdouble]
  · simp [htype, notSupported, FieldValue.sample, hint]
  · simp [htype, notSupported, FieldValue.sample, hstring]

/-- Whether a metric of the entity is still there. -/
def keeps (sim : Simulation) (x : Silencing) (place : Nat) (e : MonitoredEntity) (a : Metric) : Bool :=
  !(sim.isOn place e.entity && x.covers a.counter.name)

section Metrics
variable {options : CollectorOptions} {counters : List Counter} {c : Counter} {e : MonitoredEntity} {p : Place}

theorem metric?_relabelled (v : FieldValue) :
    Collector.metric? options (e.relabelled (x.info place)) c v = Collector.metric? options e c v := by
  have hinfo (info : DeviceInfo) : (x.info place info).index = info.index ∧ (x.info place info).uuid = info.uuid ∧
      (x.info place info).model = info.model := by
    cases x with
    | field => exact ⟨rfl, rfl, rfl⟩
    | device =>
      rw [Silencing.info]
      split <;> exact ⟨rfl, rfl, rfl⟩
  obtain ⟨hindex, huuid, hmodel⟩ := hinfo e.device
  rw [Collector.metric?, Collector.metric?, MonitoredEntity.relabelled, hindex, huuid, hmodel]

theorem metric?_silencedIf (hf : f ∈ Field.table) (hname : f.name = c.name) (on : Bool) (tick : UInt64) :
    Collector.metric? options e c
        { entity := e.entity, field := f.id, type := f.type, value := valueAt (p.silencedIf on x) e.entity f tick } =
      (Collector.metric? options e c
        { entity := e.entity, field := f.id, type := f.type, value := valueAt p e.entity f tick }).filter
        fun a => !(on && x.covers a.counter.name) := by
  have hkeep (v : FieldValue) (a : Metric) (h : Collector.metric? options e c v = some a) :
      (on && x.covers a.counter.name) = (on && x.covers f.name) := by
    rw [(Collector.shows_of_metric? h).counter, hname]
  rw [valueAt_silencedIf hf]
  cases hsilent : on && x.covers f.name with
  | true =>
    rw [if_pos rfl, Collector.metric?, sample_notSupported hf, Option.map_none, eq_comm, Option.filter_eq_none_iff]
    intro a ha
    rw [hkeep _ a ha, hsilent]
    simp
  | false =>
    rw [if_neg Bool.false_ne_true]
    cases ha : Collector.metric? options e c _ with
    | none => rfl
    | some a => simp [Option.filter, hkeep _ a ha, hsilent]

theorem metricsOf_silenced (hfields : FieldsOf counters fields) (hp : sim.placeOf? e.entity = some p) (tick : UInt64) :
    Collector.metricsOf options counters (e.relabelled (x.info place))
        ((sim.silenced x place).valuesAt fields tick e.entity) =
      (Collector.metricsOf options counters e (sim.valuesAt fields tick e.entity)).filter (sim.keeps x place e) := by
  have hzip : ∀ y ∈ counters.zip fields, y.2 ∈ Field.table ∧ y.2.name = y.1.name :=
    fun y hy => (List.forall₂_iff_zip.mp hfields).2 hy
  rw [Collector.metricsOf, Collector.metricsOf, valuesAt, valuesAt, placeOf?_silenced, hp, List.zip_map_right,
    List.zip_map_right, List.filterMap_map, List.filterMap_map, List.filter_filterMap]
  refine List.filterMap_congr fun y hy => ?_
  obtain ⟨hf, hname⟩ := hzip y hy
  exact (metric?_relabelled _).trans (metric?_silencedIf hf hname _ tick)

end Metrics

/-- Where each of some steps does what another does, but for a change of its result, so do all of them. -/
theorem mapM_eq_zipWith {m : Type → Type} [Monad m] [LawfulMonad m] {α β γ : Type} {f : α → m γ} {g : α → m β}
    {change : α → β → γ} {l : List α} (h : ∀ a ∈ l, f a = change a <$> g a) :
    l.mapM f = List.zipWith change l <$> l.mapM g := by
  induction l with
  | nil => simp
  | cons a l ih =>
    obtain ⟨ha, hl⟩ := List.forall_mem_cons.mp h
    simp [ha, ih hl]

section Passes
variable {c : Collector} {s : State}

theorem read_of_lost (hlost : s.connected = false) (sim : Simulation) (c : Collector) (e : MonitoredEntity) :
    c.read sim.manager e s = (.error (.connectionLost "not connected"), s) := by
  have hreading : sim.manager.latestValues [e.entity] (Collector.fieldsOf c.counters) s =
      (.error (.connectionLost "not connected"), s) :=
    whenConnected_of_lost hlost fun s => (sim.reading [e.entity] (Collector.fieldsOf c.counters) s.reads,
      { s with reads := s.reads + 1 })
  rw [Collector.read, Action.bind_apply, hreading]

theorem read_of_placed (hconnected : s.connected = true)
    (hfields : findFields (Collector.fieldsOf c.counters) = .ok fields) (hlength : fields.length = c.counters.length)
    {e : MonitoredEntity} (hplaced : (sim.placeOf? e.entity).isSome) :
    c.read sim.manager e s =
      (.ok (Collector.metricsOf c.options c.counters e (sim.valuesAt fields s.reads e.entity)),
        { s with reads := s.reads + 1 }) := by
  have hreading : sim.manager.latestValues [e.entity] (Collector.fieldsOf c.counters) s =
      (.ok (sim.valuesAt fields s.reads e.entity), { s with reads := s.reads + 1 }) := by
    rw [← List.flatMap_singleton (sim.valuesAt fields s.reads)]
    exact latestValues_of_placed hconnected hfields (List.forall_mem_singleton.mpr hplaced)
  have hcount : (sim.valuesAt fields s.reads e.entity).length = c.counters.length := by
    rw [valuesAt, List.length_map, hlength]
  rw [Collector.read, Action.bind_apply, hreading]
  dsimp only
  rw [if_pos hcount]
  rfl

theorem read_silenced (hcounters : ∀ k ∈ c.counters, Catalog.HasField k) {e : MonitoredEntity}
    (hplaced : (sim.placeOf? e.entity).isSome) :
    (c.relabelled (x.info place)).read (sim.silenced x place).manager (e.relabelled (x.info place)) =
      List.filter (sim.keeps x place e) <$> c.read sim.manager e := by
  funext s
  rw [Action.map_apply]
  cases hconnected : s.connected with
  | false =>
    rw [read_of_lost hconnected, read_of_lost hconnected]
    rfl
  | true =>
    obtain ⟨fields, hfields, hpaired⟩ := exists_fieldsOf hcounters
    obtain ⟨p, hp⟩ := Option.isSome_iff_exists.mp hplaced
    have hplaced' : ((sim.silenced x place).placeOf? e.entity).isSome := by
      rw [placeOf?_silenced, Option.isSome_map]
      exact hplaced
    have hlength : fields.length = c.counters.length := hpaired.length_eq.symm
    have hread := read_of_placed (c := c.relabelled (x.info place)) (e := e.relabelled (x.info place)) hconnected
      hfields hlength hplaced'
    rw [hread, read_of_placed hconnected hfields hlength hplaced]
    exact congrArg (fun row => (Except.ok row, _)) (metricsOf_silenced hpaired hp s.reads)

/-- A pass over the silenced description is a pass over the other with the silenced samples left out; what fails does so
    in the same way, and the state afterwards is the same. -/
theorem collect_silenced (x : Silencing) (place : Nat) (hserves : Serves sim c)
    (hcounters : ∀ k ∈ c.counters, Catalog.HasField k) :
    (c.relabelled (x.info place)).collect (sim.silenced x place).manager =
      MetricSet.kept (sim.keeps x place) c.entities <$> c.collect sim.manager := by
  rw [Collector.collect, Collector.collect, Collector.relabelled, List.mapM_map]
  exact mapM_eq_zipWith fun e he => read_silenced hcounters (hserves.entities e he)

/-- What pass number `k` gives, each pass made in the state that the one before left behind. -/
def passNumber (sim : Simulation) (c : Collector) : Nat → State → Except DeviceError MetricSet
  | 0, s => (c.collect sim.manager s).1
  | k + 1, s => passNumber sim c k (Action.after (c.collect sim.manager) s)

theorem passNumber_silenced (hserves : Serves sim c) (hcounters : ∀ k ∈ c.counters, Catalog.HasField k) (k : Nat)
    (s : State) :
    (sim.silenced x place).passNumber (c.relabelled (x.info place)) k s =
      (sim.passNumber c k s).map (MetricSet.kept (sim.keeps x place) c.entities) := by
  have hcollect := collect_silenced x place hserves hcounters
  induction k generalizing s with
  | zero => rw [passNumber, passNumber, hcollect, Action.map_apply]
  | succ k ih => rw [passNumber, passNumber, Action.after, hcollect, Action.map_apply, ih, Action.after]

/-- As long as there is a connection, passes succeed, and all that they give is of counters. -/
theorem exists_passNumber (hserves : Serves sim c) (hconnected : s.connected = true) (k : Nat) :
    ∃ metrics, sim.passNumber c k s = .ok metrics ∧ metrics.length = c.entities.length ∧
      ∀ a ∈ metrics.flatten, a.counter ∈ c.counters := by
  induction k generalizing s with
  | zero =>
    obtain ⟨metrics, hmetrics⟩ := collect_of_connected hserves hconnected
    have hpass : c.collect sim.manager s = (.ok metrics, (c.collect sim.manager s).2) := Prod.ext hmetrics rfl
    refine ⟨metrics, hmetrics, Collector.length_of_collect hpass, fun a ha => ?_⟩
    obtain ⟨e, -, counter, hcounter, v, hshows⟩ := Collector.exists_shows_of_mem_flatten hpass ha
    rw [hshows.counter]
    exact hcounter
  | succ k ih =>
    have hkeeps := keeps_collect (sim.reads_manager_of (f := State.connected) fun _ _ => rfl) c
    exact ih ((hkeeps s).trans hconnected)

end Passes

/-! ### Silenced collectors -/

section Run
variable {o : SetupOptions} {catalog : Except CatalogError (List Counter)} {setup : Setup} {s₀ s : State}

/-- What was set up was built and started with a connection. -/
theorem exists_of_run (h : Setup.run sim.manager o catalog s₀ = (.ok setup, s)) :
    ∃ s₁ s₂, s₁.connected = true ∧ s₂.connected = true ∧ catalog = .ok setup.collector.counters ∧
      Topology.build sim.manager o.rules o.permitPlaceholders s₁ = (.ok (setup.topology, setup.report), s₂) ∧
      Collector.start sim.manager setup.topology setup.collector.counters o.collector s₂ =
        (.ok setup.collector, s) := by
  obtain ⟨⟨⟩, s₁, hconnect, hsession⟩ := Action.bind_eq_ok h
  have hconnected : s₁.connected = true := by
    cases Action.mapFault_eq_ok hconnect
    rfl
  obtain ⟨⟨topology, report⟩, s₂, hbuild, hrest⟩ := Action.bind_eq_ok (Action.undoing_eq_ok hsession)
  obtain ⟨counters, s₂', hcatalog, hrest⟩ := Action.bind_eq_ok hrest
  obtain ⟨hcounters, rfl⟩ := Prod.mk.inj (Action.mapFault_eq_ok hcatalog)
  obtain ⟨c, u, hstart, hsetup⟩ := Action.bind_eq_ok hrest
  cases hsetup
  have hbuild := Action.mapFault_eq_ok hbuild
  have hstart := Action.mapFault_eq_ok hstart
  have hconnected' : s₂.connected = true := by
    have hkeeps := keeps_build (sim.reads_manager_of (f := State.connected) fun _ _ => rfl) o.rules
      o.permitPlaceholders s₁
    rw [Action.after, hbuild] at hkeeps
    rwa [← hconnected]
  obtain rfl := (Collector.start_eq_ok hstart).2.1
  exact ⟨s₁, s₂, hconnected, hconnected', hcounters, hbuild, hstart⟩

/-- Silencing a device, for a field or as a whole, takes its samples of the silenced fields out of every pass and
    their lines out of every text, and changes nothing else: a collector is set up as before, for a field with the
    very same topology, and else with one that differs in whether the device is supported. -/
theorem silencing_withholds_samples {bytes : List UInt8}
    (hrun : Setup.run sim.manager o (Catalog.ofBytes bytes) s₀ = (.ok setup, s)) (x : Silencing) (place : Nat) :
    let c := setup.collector
    let setup' := setup.relabelled (x.info place)
    let keep := sim.keeps x place
    Setup.run (sim.silenced x place).manager o (Catalog.ofBytes bytes) s₀ = (.ok setup', s) ∧
      (∀ name, x = .field name → setup' = setup) ∧
      (sim.devices.length < UInt32.size →
        ∀ e ∈ c.entities, sim.isOn place e.entity = true ↔ e.device.index.toNat = place) ∧
      ∀ k, ∃ metrics, sim.passNumber c k s = .ok metrics ∧
        (sim.silenced x place).passNumber setup'.collector k s = .ok (metrics.kept keep c.entities) ∧
        render c.counters metrics = textOf (layout c.counters (rowsOf c.entities metrics)) ∧
        render c.counters (metrics.kept keep c.entities) =
          textOf ((layout c.counters (rowsOf c.entities metrics)).filter (Shown.isKept keep)) := by
  intro c setup' keep
  obtain ⟨s₁, s₂, hconnected, hconnected', hcatalog, hbuild, hstart⟩ := exists_of_run hrun
  have hcounters := Catalog.hasField_of_ofBytes hcatalog
  obtain ⟨c', u, hstart', hconnected'', hserves⟩ :=
    exists_start hconnected hbuild hcounters o.collector hconnected'
  obtain ⟨hsame, rfl⟩ := Prod.mk.inj (hstart.symm.trans hstart')
  obtain rfl : c = c' := Except.ok.inj hsame
  have hselected := (Collector.start_eq_ok hstart).1
  refine ⟨?_, ?_, fun hsize => isOn_iff_of_build hsize hconnected hbuild hselected, fun k => ?_⟩
  · rw [Setup.run_relabelled (keepsIndices_info x place) (relabels_silenced sim x place), Action.map_apply, hrun]
    rfl
  · rintro name rfl
    exact Setup.relabelled_id setup
  · obtain ⟨metrics, hmetrics, hlength, hcatalogued⟩ := exists_passNumber hserves hconnected'' k
    refine ⟨metrics, hmetrics, ?_, Exposition.render_eq_textOf hlength hcatalogued,
      Exposition.render_kept keep hlength hcatalogued⟩
    exact (passNumber_silenced hserves hcounters k s).trans (congrArg (Except.map _) hmetrics)

/-- A device with a fixed reading and one without, each with a partition. -/
def oneFixed : Simulation :=
  { devices :=
      [ { uuid := "GPU-a"
          partitions := [{ id := 5, instanceId := 1, profile := some "1g.5gb" }]
          values := SortedMap.empty.insert "DCGM_FI_DEV_GPU_TEMP" (.int 41) },
        { uuid := "GPU-b", partitions := [{ id := 3, instanceId := 2 }] } ] }

def temperature : Counter := { field := 150, name := "DCGM_FI_DEV_GPU_TEMP", type := .gauge, help := "t" }

/-- The fixed reading is silenced, too, and the other device keeps its own. -/
theorem silencing_withholds_samples_fixed :
    let x := Silencing.field "DCGM_FI_DEV_GPU_TEMP"
    let bytes := "DCGM_FI_DEV_GPU_TEMP,gauge,t".toUTF8.data.toList
    ∃ setup s metrics, Setup.run oneFixed.manager {} (Catalog.ofBytes bytes) {} = (.ok setup, s) ∧
      Setup.run (oneFixed.silenced x 0).manager {} (Catalog.ofBytes bytes) {} = (.ok setup, s) ∧
      oneFixed.passNumber setup.collector 2 s = .ok metrics ∧
      metrics.map (List.map Metric.value) = [["41"], ["60"]] ∧
      (oneFixed.silenced x 0).passNumber setup.collector 2 s =
        .ok (metrics.kept (oneFixed.keeps x 0) setup.collector.entities) ∧
      (metrics.kept (oneFixed.keeps x 0) setup.collector.entities).map (List.map Metric.value) = [[], ["60"]] := by
  intro x bytes
  have hcatalog : Catalog.ofBytes bytes = .ok [temperature] := by decide +kernel
  obtain ⟨setup, s, hrun, hvalues, hkept⟩ : ∃ setup s,
      Setup.run oneFixed.manager {} (.ok [temperature]) {} = (.ok setup, s) ∧
      (oneFixed.passNumber setup.collector 2 s).map (List.map (List.map Metric.value)) = .ok [["41"], ["60"]] ∧
      (oneFixed.passNumber setup.collector 2 s).map (fun metrics =>
        (metrics.kept (oneFixed.keeps x 0) setup.collector.entities).map (List.map Metric.value)) =
          .ok [[], ["60"]] := by
    refine ⟨_, _, rfl, ?_, ?_⟩ <;> decide +kernel
  rw [← hcatalog] at hrun
  obtain ⟨hsilenced, hsame, -, hpasses⟩ := silencing_withholds_samples hrun x 0
  obtain ⟨metrics, hmetrics, hwithheld, -⟩ := hpasses 2
  rw [hmetrics] at hvalues hkept
  rw [hsame _ rfl] at hsilenced hwithheld
  exact ⟨setup, s, metrics, hrun, hsilenced, hmetrics, Except.ok.inj hvalues, hwithheld, Except.ok.inj hkept⟩

end Run

end Simulation
end Telemetry
