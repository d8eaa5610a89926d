import Mathlib.Data.List.Forall2
import Telemetry.Collector
import Telemetry.Device.Logged
import Telemetry.Device.Scripted
import Telemetry.Proofs.Ending

/-! One pass of a collector. The entities are read one by one, in the order of their selection and each for the
    fields of all counters; the first that cannot be read, or that does not give a value for every counter, ends
    the pass. Values belong to counters by their places alone. -/

namespace Telemetry
variable {σ : Type}

/-! ### Readings, one after the other -/

namespace DeviceManager

/-- Each entity is read in the state that the reading before it left, and gives one value for every field. -/
inductive ReadAll (m : DeviceManager σ) (fields : List FieldId) : List Entity → σ → List (List FieldValue) → σ → Prop
  | nil (s : σ) : ReadAll m fields [] s [] s
  | cons {e : Entity} {es : List Entity} {vs : List FieldValue} {vss : List (List FieldValue)} {s t u : σ}
    (reading : m.latestValues [e] fields s = (.ok vs, t)) (count : vs.length = fields.length)
    (rest : ReadAll m fields es t vss u) : ReadAll m fields (e :: es) s (vs :: vss) u

/-- How the reading of an entity fails: the manager says so, or it gives too few values or too many. -/
inductive ReadFault (m : DeviceManager σ) (fields : List FieldId) (e : Entity) (s : σ) : DeviceError → σ → Prop
  | refused {err : DeviceError} {t : σ} (reading : m.latestValues [e] fields s = (.error err, t)) :
    ReadFault m fields e s err t
  | miscounted {vs : List FieldValue} {t : σ} (reading : m.latestValues [e] fields s = (.ok vs, t))
    (count : vs.length ≠ fields.length) :
    ReadFault m fields e s (.backend s!"expected {fields.length} values for {e.text}, got {vs.length}") t

/-- The reading of an entity fails, and those before it did not. -/
inductive FaultAfter (m : DeviceManager σ) (fields : List FieldId) (before : List Entity) (e : Entity) (s : σ)
    (err : DeviceError) (u : σ) : Prop where
  | intro {vss : List (List FieldValue)} {t : σ} (earlier : ReadAll m fields before s vss t)
    (fault : ReadFault m fields e t err u) : FaultAfter m fields before e s err u

theorem ReadAll.length_eq {m : DeviceManager σ} {fields : List FieldId} {es : List Entity} {s t : σ}
    {vss : List (List FieldValue)} (h : ReadAll m fields es s vss t) : vss.length = es.length := by
  induction h with
  | nil => rfl
  | cons _ _ _ ih => rw [List.length_cons, List.length_cons, ih]

end DeviceManager

/-! ### Where selected entities come from -/

namespace Topology
variable {t : Topology}

/-- An entity of the topology: one of its devices, or one of its partitions with the device that this is of. -/
inductive Offers (t : Topology) : MonitoredEntity → Prop
  | device {d : DeviceInfo} (hd : d ∈ t.devices) : Offers t { entity := Entity.device d.index, device := d }
  | partition {p : PartitionNode} {d : DeviceInfo} (hp : p ∈ t.forest.partitions) (hd : t.deviceOf? p = some d) :
    Offers t
      { entity := Entity.partition p.id
        device := d
        partition := some { id := p.id, instanceId := p.info.instanceId, profile := p.profile } }

theorem offers_of_monitoredPartition {p : PartitionNode} {e : MonitoredEntity} (hp : p ∈ t.forest.partitions)
    (h : t.monitoredPartition p = .ok e) : t.Offers e := by
  rw [monitoredPartition] at h
  cases hd : t.deviceOf? p with
  | none =>
    rw [hd] at h
    cases h
  | some d =>
    rw [hd] at h
    cases h
    exact .partition hp hd

theorem offers_of_allPartitions {es : List MonitoredEntity} (h : t.allPartitions = .ok es) : ∀ e ∈ es, t.Offers e := by
  intro e he
  obtain ⟨p, hp, hmonitored⟩ := exists_of_mem_mapM h e he
  obtain ⟨d, -, hd⟩ := List.mem_flatMap.mp hp
  obtain ⟨slot, -, hslot⟩ := List.mem_filterMap.mp hd
  exact offers_of_monitoredPartition (List.mem_of_getElem? hslot) hmonitored

theorem offers_of_selectedPartitions {sel : Selection} {es : List MonitoredEntity}
    (h : t.selectedPartitions sel = .ok es) : ∀ e ∈ es, t.Offers e := by
  cases sel with
  | all => exact offers_of_allPartitions h
  | indices is =>
    intro e he
    obtain ⟨i, -, hi⟩ := exists_of_mem_mapM h e he
    cases hp : t.partition? i with
    | none =>
      rw [hp] at hi
      cases hi
    | some p =>
      rw [hp] at hi
      obtain ⟨slot, -, hslot⟩ := Option.bind_eq_some_iff.mp hp
      exact offers_of_monitoredPartition (List.mem_of_getElem? hslot) hi

theorem offers_of_selectedDevices {sel : Selection} {es : List MonitoredEntity}
    (h : t.selectedDevices sel = .ok es) : ∀ e ∈ es, t.Offers e := by
  intro e he
  cases sel with
  | all =>
    obtain rfl : t.allDevices = es := Except.ok.inj h
    obtain ⟨d, hd, rfl⟩ := List.mem_map.mp he
    exact .device hd
  | indices is =>
    obtain ⟨i, -, hi⟩ := exists_of_mem_mapM h e he
    cases hd : t.device? i with
    | none =>
      rw [hd] at hi
      cases hi
    | some d =>
      rw [hd] at hi
      cases hi
      exact .device (List.mem_of_getElem? hd)

/-- Whatever is selected is of the topology. -/
theorem offers_of_selected {es : List MonitoredEntity} (h : t.selected = .ok es) : ∀ e ∈ es, t.Offers e := by
  rw [selected] at h
  split at h
  · split at h
    · exact offers_of_allPartitions h
    · have hall : t.selectedDevices .all = .ok es := h
      exact offers_of_selectedDevices hall
  · exact offers_of_selectedPartitions h
  · exact offers_of_selectedDevices h
  · cases h
    exact nofun

end Topology

namespace Collector
open DeviceManager

/-! ### The calls of a pass -/

section Calls
variable {m : DeviceManager σ} {c : Collector} {e : MonitoredEntity} {es : List MonitoredEntity} {s t u : σ}

/-- The call that reads an entity. -/
def asking (c : Collector) (e : MonitoredEntity) : ManagerCall := .latestValues [e.entity] (fieldsOf c.counters)

theorem length_fieldsOf (counters : List Counter) : (fieldsOf counters).length = counters.length := List.length_map ..

theorem read_eq_ok {vs : List FieldValue} (hreading : m.latestValues [e.entity] (fieldsOf c.counters) s = (.ok vs, t))
    (hcount : vs.length = (fieldsOf c.counters).length) (calls : List ManagerCall) :
    c.read m.logged e { state := s, calls } =
      (.ok (metricsOf c.options c.counters e vs), { state := t, calls := calls ++ [c.asking e] }) := by
  have hcall : m.logged.latestValues [e.entity] (fieldsOf c.counters) { state := s, calls } =
      (.ok vs, { state := t, calls := calls ++ [c.asking e] }) := by
    simp only [logged, Logged.call, hreading]
    rfl
  rw [read, Action.bind_apply, hcall]
  dsimp only
  rw [if_pos (by rw [hcount, length_fieldsOf])]
  rfl

theorem read_eq_error {err : DeviceError} (hfault : ReadFault m (fieldsOf c.counters) e.entity s err t)
    (calls : List ManagerCall) :
    c.read m.logged e { state := s, calls } = (.error err, { state := t, calls := calls ++ [c.asking e] }) := by
  rw [read, Action.bind_apply]
  cases hfault with
  | refused hreading =>
    simp only [logged, Logged.call, hreading]
    rfl
  | miscounted hreading hcount =>
    simp only [logged, Logged.call, hreading]
    rw [length_fieldsOf] at hcount ⊢
    rw [if_neg hcount]
    rfl

theorem mapM_read_of_readAll {vss : List (List FieldValue)}
    (hall : ReadAll m (fieldsOf c.counters) (es.map MonitoredEntity.entity) s vss t) (calls : List ManagerCall) :
    es.mapM (c.read m.logged) { state := s, calls } =
      (.ok (List.zipWith (metricsOf c.options c.counters) es vss),
        { state := t, calls := calls ++ es.map c.asking }) := by
  induction es generalizing s vss calls with
  | nil =>
    cases hall
    rw [List.map_nil, List.append_nil]
    rfl
  | cons e es ih =>
    cases hall with
    | cons hreading hcount hrest =>
      rw [List.mapM_cons, Action.bind_apply, read_eq_ok hreading hcount]
      dsimp only
      rw [Action.bind_apply, ih hrest, List.append_assoc]
      rfl

theorem mapM_read_of_fault {before : List MonitoredEntity} {err : DeviceError}
    (hfirst : FaultAfter m (fieldsOf c.counters) (before.map MonitoredEntity.entity) e.entity s err u)
    (after : List MonitoredEntity) (calls : List ManagerCall) :
    (before ++ e :: after).mapM (c.read m.logged) { state := s, calls } =
      (.error err, { state := u, calls := calls ++ (before ++ [e]).map c.asking }) := by
  obtain ⟨hall, hfault⟩ := hfirst
  rw [List.mapM_append, Action.bind_apply, mapM_read_of_readAll hall]
  dsimp only
  rw [List.mapM_cons, bind_assoc, Action.bind_apply, read_eq_error hfault, List.map_append, List.append_assoc]
  rfl

/-- Either all readings succeed or there is a first that fails. -/
theorem readAll_or_fault (m : DeviceManager σ) (fields : List FieldId) (es : List MonitoredEntity) (s : σ) :
    (∃ vss t, ReadAll m fields (es.map MonitoredEntity.entity) s vss t) ∨
      ∃ before e after err t, es = before ++ e :: after ∧
        FaultAfter m fields (before.map MonitoredEntity.entity) e.entity s err t := by
  induction es generalizing s with
  | nil => exact .inl ⟨[], s, .nil s⟩
  | cons e es ih =>
    rcases hreading : m.latestValues [e.entity] fields s with ⟨err | vs, t⟩
    · exact .inr ⟨[], e, es, err, t, rfl, .nil s, .refused hreading⟩
    by_cases hcount : vs.length = fields.length
    · rcases ih t with ⟨vss, u, hall⟩ | ⟨before, x, after, err, u, rfl, hbefore, hfault⟩
      · exact .inl ⟨vs :: vss, u, .cons hreading hcount hall⟩
      · exact .inr ⟨e :: before, x, after, err, u, rfl, .cons hreading hcount hbefore, hfault⟩
    · exact .inr ⟨[], e, es, _, t, rfl, .nil s, .miscounted hreading hcount⟩

/-- A pass gives metrics if all readings succeed, and only then. -/
theorem collect_eq_ok_iff {s u : Logged σ} {metrics : MetricSet} :
    c.collect m.logged s = (.ok metrics, u) ↔
      ∃ vss, ReadAll m (fieldsOf c.counters) (c.entities.map MonitoredEntity.entity) s.state vss u.state ∧
        u.calls = s.calls ++ c.entities.map c.asking ∧
        metrics = List.zipWith (metricsOf c.options c.counters) c.entities vss := by
  constructor
  · intro h
    rcases readAll_or_fault m (fieldsOf c.counters) c.entities s.state with
      ⟨vss, t, hall⟩ | ⟨_, _, _, err, t, hsplit, hfault⟩
    · obtain ⟨⟨⟩, rfl⟩ := Prod.mk.inj ((mapM_read_of_readAll hall s.calls).symm.trans h)
      exact ⟨vss, hall, rfl, rfl⟩
    · rw [collect, hsplit, mapM_read_of_fault hfault _ s.calls] at h
      cases h
  · rintro ⟨vss, hall, hcalls, rfl⟩
    obtain ⟨t, calls⟩ := u
    obtain rfl : calls = _ := hcalls
    exact mapM_read_of_readAll hall s.calls

/-- A pass fails with the first reading that does, after which no entity is asked. -/
theorem collect_eq_error_iff {s u : Logged σ} {err : DeviceError} :
    c.collect m.logged s = (.error err, u) ↔
      ∃ before e after, c.entities = before ++ e :: after ∧
        FaultAfter m (fieldsOf c.counters) (before.map MonitoredEntity.entity) e.entity s.state err u.state ∧
        u.calls = s.calls ++ (before ++ [e]).map c.asking := by
  constructor
  · intro h
    rcases readAll_or_fault m (fieldsOf c.counters) c.entities s.state with
      ⟨vss, t, hall⟩ | ⟨before, e, after, err', t, hsplit, hfault⟩
    · rw [collect, mapM_read_of_readAll hall s.calls] at h
      cases h
    · have hrun := mapM_read_of_fault (c := c) hfault after s.calls
      rw [← hsplit] at hrun
      obtain ⟨⟨⟩, rfl⟩ := Prod.mk.inj (hrun.symm.trans h)
      exact ⟨before, e, after, hsplit, hfault, rfl⟩
  · rintro ⟨before, e, after, hsplit, hfault, hcalls⟩
    obtain ⟨t, calls⟩ := u
    obtain rfl : calls = _ := hcalls
    rw [collect, hsplit]
    exact mapM_read_of_fault hfault after s.calls

end Calls

/-! ### What the metrics show -/

/-- A metric shows the value of a counter for an entity. -/
structure Shows (options : CollectorOptions) (e : MonitoredEntity) (x : Counter × FieldValue) (metric : Metric) :
    Prop where
  counter : metric.counter = x.1
  value : x.2.sample = some metric.value
  gpu : metric.gpu = toString e.device.index
  uuid : metric.uuid = e.device.uuid
  device : metric.device = s!"nvidia{e.device.index}"
  model : metric.model = e.device.model
  style : metric.style = options.style
  hostname : metric.hostname = options.hostname
  partition : ∀ labels, metric.partition = some labels ↔
    ∃ p, e.partition = some p ∧ p.profile ≠ "" ∧ labels = { profile := p.profile, instanceId := toString p.instanceId }
  attributes : metric.attributes = SortedMap.empty

/-- The metrics show, in the order of the counters, the values that have a text. -/
def ShowsAll (options : CollectorOptions) (counters : List Counter) (x : MonitoredEntity × List FieldValue)
    (metrics : List Metric) : Prop :=
  List.Forall₂ (Shows options x.1) ((counters.zip x.2).filter fun y => y.2.sample.isSome) metrics

section Shows
variable {options : CollectorOptions} {counters : List Counter} {e : MonitoredEntity}

theorem labels?_eq_some_iff {p : PartitionIdentity} {labels : PartitionLabels} :
    p.labels? = some labels ↔
      p.profile ≠ "" ∧ labels = { profile := p.profile, instanceId := toString p.instanceId } := by
  rw [PartitionIdentity.labels?]
  split
  · rename_i hempty
    simp [String.isEmpty_iff.mp hempty]
  · rename_i hnonempty
    simp [mt String.isEmpty_iff.mpr hnonempty, eq_comm]

theorem shows_of_metric? {counter : Counter} {v : FieldValue} {metric : Metric}
    (h : metric? options e counter v = some metric) : Shows options e (counter, v) metric := by
  obtain ⟨text, htext, rfl⟩ := Option.map_eq_some_iff.mp h
  refine ⟨rfl, htext, rfl, rfl, rfl, rfl, rfl, rfl, fun labels => ?_, rfl⟩
  simp only [Option.bind_eq_some_iff, labels?_eq_some_iff]

/-- The value and the entity leave no choice. -/
theorem Shows.unique {x : Counter × FieldValue} {metric metric' : Metric} (h : Shows options e x metric)
    (h' : Shows options e x metric') : metric = metric' := by
  have hvalue : metric.value = metric'.value := Option.some.inj (h.value.symm.trans h'.value)
  have hpartition : metric.partition = metric'.partition :=
    Option.ext fun labels => (h.partition labels).trans (h'.partition labels).symm
  obtain ⟨⟩ := metric
  obtain ⟨⟩ := metric'
  simp only [Metric.mk.injEq]
  exact ⟨h.counter.trans h'.counter.symm, hvalue, h.gpu.trans h'.gpu.symm, h.uuid.trans h'.uuid.symm,
    h.device.trans h'.device.symm, h.model.trans h'.model.symm, h.style.trans h'.style.symm, hpartition,
    h.hostname.trans h'.hostname.symm, h.attributes.trans h'.attributes.symm⟩

theorem showsAll_metricsOf (e : MonitoredEntity) (vs : List FieldValue) :
    ShowsAll options counters (e, vs) (metricsOf options counters e vs) := by
  rw [ShowsAll, metricsOf]
  induction counters.zip vs with
  | nil => exact .nil
  | cons x xs ih =>
    obtain ⟨counter, v⟩ := x
    cases hmetric : metric? options e counter v with
    | none =>
      have hnone : v.sample.isSome = false := by
        rw [Option.map_eq_none_iff.mp hmetric]
        rfl
      rw [List.filter_cons_of_neg (by simp [hnone]), List.filterMap_cons]
      simp only [hmetric]
      exact ih
    | some metric =>
      have hshows := shows_of_metric? hmetric
      have hsome : v.sample.isSome = true := by
        rw [hshows.value]
        rfl
      rw [List.filter_cons_of_pos (by exact hsome), List.filterMap_cons]
      simp only [hmetric]
      exact .cons hshows ih

theorem showsAll_iff {vs : List FieldValue} {metrics : List Metric} :
    ShowsAll options counters (e, vs) metrics ↔ metrics = metricsOf options counters e vs := by
  constructor
  · intro h
    have hunique : Relator.RightUnique (Shows options e) := fun _ _ _ h h' => h.unique h'
    exact List.right_unique_forall₂' hunique h (showsAll_metricsOf e vs)
  · rintro rfl
    exact showsAll_metricsOf e vs

theorem forall₂_showsAll_iff {es : List MonitoredEntity} {vss : List (List FieldValue)} {metrics : MetricSet} :
    List.Forall₂ (ShowsAll options counters) (es.zip vss) metrics ↔
      metrics = List.zipWith (metricsOf options counters) es vss := by
  rw [← List.map_uncurry_zip_eq_zipWith]
  induction es.zip vss generalizing metrics with
  | nil => simp
  | cons x xs ih =>
    obtain ⟨e, vs⟩ := x
    cases metrics with
    | nil => simp
    | cons ms metrics => simp [showsAll_iff, ih]

end Shows

/-! ### Every pass -/

theorem start_eq_ok {m : DeviceManager σ} {t : Topology} {counters : List Counter} {options : CollectorOptions}
    {c : Collector} {s₀ s₁ : σ} (h : start m t counters options s₀ = (.ok c, s₁)) :
    t.selected = .ok c.entities ∧ c.counters = counters ∧ c.options = options := by
  obtain ⟨es, s, hselected, h⟩ := Action.bind_eq_ok h
  obtain ⟨watch, u, -, h⟩ := Action.bind_eq_ok h
  cases h
  exact ⟨congrArg Prod.fst hselected, rfl, rfl⟩

/-- A pass asks the manager for one selected entity at a time, in the order of the selection and always for the
    fields of all counters. It succeeds exactly if every reading does, with one value for each counter; otherwise
    it fails as the first reading that does, after which it asks nothing. If it succeeds, the metrics of each
    entity show its values that have a text, each for the counter at its place, in the order of the counters. -/
theorem pass_reads_in_order {m : DeviceManager σ} {t : Topology} {counters : List Counter}
    {options : CollectorOptions} {c : Collector} {s₀ s₁ : σ} (hstart : start m t counters options s₀ = (.ok c, s₁)) :
    let fields := counters.map Counter.field
    let asking := fun e : MonitoredEntity => ManagerCall.latestValues [e.entity] fields
    ∃ es, t.selected = .ok es ∧ (∀ e ∈ es, t.Offers e) ∧
      (∀ s u metrics, c.collect m.logged s = (.ok metrics, u) ↔
        ∃ vss, ReadAll m fields (es.map MonitoredEntity.entity) s.state vss u.state ∧
          u.calls = s.calls ++ es.map asking ∧ vss.length = es.length ∧
          List.Forall₂ (ShowsAll options counters) (es.zip vss) metrics) ∧
      ∀ s u err, c.collect m.logged s = (.error err, u) ↔
        ∃ before e after, es = before ++ e :: after ∧
          FaultAfter m fields (before.map MonitoredEntity.entity) e.entity s.state err u.state ∧
          u.calls = s.calls ++ (before ++ [e]).map asking := by
  intro fields asking
  obtain ⟨hselected, rfl, rfl⟩ := start_eq_ok hstart
  refine ⟨c.entities, hselected, Topology.offers_of_selected hselected, fun s u metrics => ?_, fun s u err => ?_⟩
  · rw [collect_eq_ok_iff]
    refine exists_congr fun vss => ?_
    rw [forall₂_showsAll_iff]
    constructor
    · rintro ⟨hall, hcalls, hmetrics⟩
      exact ⟨hall, hcalls, by rw [hall.length_eq, List.length_map], hmetrics⟩
    · rintro ⟨hall, hcalls, -, hmetrics⟩
      exact ⟨hall, hcalls, hmetrics⟩
  · exact collect_eq_error_iff

/-- A device with two partitions, the second of which has no profile. -/
def twoPartitions : Topology where
  forest :=
    { devices := [{ info := Script.plainDevice 0, partitions := [0, 1] }]
      partitions :=
        [{ id := 7, device := 0, info := { instanceId := 2 }, profile := "2g.10gb" },
          { id := 9, device := 0, info := {} }]
      partitionSlots := [(9, 1), (7, 0)] }
  partitioning := true
  rules := .flex

/-- Three readings, the last of which has too few values for two counters. -/
def threeReadings : Script where
  values :=
    [.ok [{ type := .int64, value := .int64 (Sentinel.int64 .blank) }, { type := .int64, value := .int64 42 }],
      .ok [{ type := .string, value := .string "P0" }, { type := .string, value := .blob [] }],
      .ok [{ type := .int64, value := .int64 7 }]]

def temperature : Counter := { field := 150, name := "DCGM_FI_DEV_GPU_TEMP", type := .gauge, help := "Temperature." }

def powerState : Counter := { field := 190, name := "DCGM_FI_DEV_PSTATE", type := .gauge, help := "State." }

/-- A pass that succeeds, and the next one, which fails with the first entity. -/
theorem pass_reads_in_order_threeReadings :
    ∃ c s₁, start threeReadings.manager twoPartitions [temperature, powerState] {} 0 = (.ok c, s₁) ∧
      (∃ metrics u, c.collect threeReadings.manager.logged { state := 0 } = (.ok metrics, u) ∧
        u.calls = [.latestValues [Entity.partition 7] [150, 190], .latestValues [Entity.partition 9] [150, 190]] ∧
        metrics.length = 2) ∧
      c.collect threeReadings.manager.logged { state := 2 } =
        (.error (.backend "expected 2 values for partition 7, got 1"),
          { state := 3, calls := [.latestValues [Entity.partition 7] [150, 190]] }) := by
  obtain ⟨c, s₁, hstart⟩ : ∃ c s₁,
      start threeReadings.manager twoPartitions [temperature, powerState] {} 0 = (.ok c, s₁) := ⟨_, _, rfl⟩
  obtain ⟨es, hselected, -, hok, herror⟩ := pass_reads_in_order hstart
  obtain ⟨seventh, ninth, rfl, hseventh, hninth⟩ : ∃ seventh ninth, es = [seventh, ninth] ∧
      seventh.entity = Entity.partition 7 ∧ ninth.entity = Entity.partition 9 :=
    ⟨_, _, (Except.ok.inj hselected).symm, rfl, rfl⟩
  refine ⟨c, s₁, hstart, ?_, ?_⟩
  · obtain ⟨metrics, u, hrun⟩ : ∃ metrics u,
        c.collect threeReadings.manager.logged { state := 0 } = (.ok metrics, u) := by
      cases hstart
      exact ⟨_, _, rfl⟩
    obtain ⟨vss, -, hcalls, hlength, hshows⟩ := (hok { state := 0 } u metrics).mp hrun
    refine ⟨metrics, u, hrun, by simpa [hseventh, hninth, temperature, powerState] using hcalls, ?_⟩
    rw [← hshows.length_eq, List.length_zip, hlength]
    rfl
  · refine (herror { state := 2 } { state := 3, calls := _ } _).mpr ⟨[], seventh, [ninth], rfl, ⟨.nil 2, ?_⟩, ?_⟩
    · have hreading : threeReadings.manager.latestValues [Entity.partition 7] [150, 190] 2 =
          (.ok [{ entity := Entity.partition 7, field := 0, type := .int64, value := .int64 7 }], 3) := rfl
      rw [hseventh]
      exact .miscounted hreading (by decide)
    · rw [List.nil_append, List.nil_append, List.map_singleton, hseventh]
      rfl

end Collector
end Telemetry
