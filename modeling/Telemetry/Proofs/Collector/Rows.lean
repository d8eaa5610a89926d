import Telemetry.Proofs.Collector.Pass
import Telemetry.Proofs.Device.Recording

/-! The metrics of a pass, row by row. A row belongs to the entity at its place and has the metrics of one
    reading of that entity; so a metric has its value from a reading, and all else from the collector. -/

namespace Telemetry

theorem DeviceManager.ReadAll.length_of_mem {σ : Type} {m : DeviceManager σ} {fields : List FieldId} {es : List Entity}
    {vss : List (List FieldValue)} {s t : σ} (h : ReadAll m fields es s vss t) :
    ∀ vs ∈ vss, vs.length = fields.length := by
  induction h with
  | nil => exact nofun
  | cons _ hcount _ ih => exact List.forall_mem_cons.mpr ⟨hcount, ih⟩

/-- What stands beside a thing in the list that was made of it was made of it. -/
theorem mem_zip_zipWith {α β γ : Type} {f : α → β → γ} {as : List α} {bs : List β} {a : α} {c : γ}
    (h : (a, c) ∈ as.zip (List.zipWith f as bs)) : ∃ b, (a, b) ∈ as.zip bs ∧ c = f a b := by
  induction as generalizing bs with
  | nil => cases h
  | cons x as ih =>
    cases bs with
    | nil => cases h
    | cons y bs =>
      rw [List.zipWith_cons_cons, List.zip_cons_cons] at h
      rcases List.mem_cons.mp h with heq | h
      · cases heq
        exact ⟨y, List.mem_cons_self, rfl⟩
      · obtain ⟨b, hb, hc⟩ := ih h
        exact ⟨b, List.mem_cons_of_mem _ hb, hc⟩

theorem Topology.Offers.device_mem {t : Topology} {e : MonitoredEntity} (h : t.Offers e) : e.device ∈ t.devices := by
  cases h with
  | device hd => exact hd
  | partition _ hd => exact List.mem_of_getElem? hd

namespace Collector
open DeviceManager (ReadAll)

variable {σ : Type} {m : DeviceManager σ} {c : Collector} {e : MonitoredEntity} {s u : σ} {metrics : MetricSet}

/-! ### Rows -/

/-- A pass that succeeds has read every entity, and its rows are made of the readings. -/
theorem readAll_of_collect (h : c.collect m s = (.ok metrics, u)) :
    ∃ vss, ReadAll m (fieldsOf c.counters) (c.entities.map MonitoredEntity.entity) s vss u ∧
      metrics = List.zipWith (metricsOf c.options c.counters) c.entities vss := by
  obtain ⟨v, hrun, hsince⟩ := (Logged.quiet_collect m c).gives h { state := s } rfl
  obtain ⟨vss, hall, -, hmetrics⟩ := collect_eq_ok_iff.mp hrun
  rw [hsince.state] at hall
  exact ⟨vss, hall, hmetrics⟩

theorem length_of_collect (h : c.collect m s = (.ok metrics, u)) : metrics.length = c.entities.length := by
  obtain ⟨vss, hall, rfl⟩ := readAll_of_collect h
  rw [List.length_zipWith, hall.length_eq, List.length_map, Nat.min_self]

/-- The row of an entity has the metrics of one reading of it. -/
theorem exists_reading_of_mem_zip (h : c.collect m s = (.ok metrics, u)) {row : List Metric}
    (hrow : (e, row) ∈ c.entities.zip metrics) : ∃ vs, row = metricsOf c.options c.counters e vs := by
  obtain ⟨vss, -, rfl⟩ := readAll_of_collect h
  obtain ⟨vs, -, hvs⟩ := mem_zip_zipWith hrow
  exact ⟨vs, hvs⟩

/-! ### Metrics -/

section Metrics
variable {options : CollectorOptions} {counters : List Counter} {a : Metric}

theorem mem_metricsOf_iff {vs : List FieldValue} :
    a ∈ metricsOf options counters e vs ↔ ∃ x ∈ counters.zip vs, metric? options e x.1 x.2 = some a :=
  List.mem_filterMap

/-- The metrics of all rows, each with the entity and the reading that it is of. -/
theorem mem_flatten_iff {es : List MonitoredEntity} {vss : List (List FieldValue)} :
    a ∈ (List.zipWith (metricsOf options counters) es vss).flatten ↔
      ∃ x ∈ es.zip vss, a ∈ metricsOf options counters x.1 x.2 := by
  rw [← List.map_uncurry_zip_eq_zipWith, List.mem_flatten]
  constructor
  · rintro ⟨row, hrow, ha⟩
    obtain ⟨x, hx, rfl⟩ := List.mem_map.mp hrow
    exact ⟨x, hx, ha⟩
  · rintro ⟨x, hx, ha⟩
    exact ⟨_, List.mem_map_of_mem hx, ha⟩

/-- The row of an entity shows the entity. -/
theorem exists_shows_of_mem_zip (h : c.collect m s = (.ok metrics, u)) {row : List Metric}
    (hrow : (e, row) ∈ c.entities.zip metrics) (ha : a ∈ row) :
    ∃ counter ∈ c.counters, ∃ v, Shows c.options e (counter, v) a := by
  obtain ⟨vs, rfl⟩ := exists_reading_of_mem_zip h hrow
  obtain ⟨⟨counter, v⟩, hx, hmetric⟩ := mem_metricsOf_iff.mp ha
  exact ⟨counter, (List.of_mem_zip hx).1, v, shows_of_metric? hmetric⟩

theorem exists_shows_of_mem_flatten (h : c.collect m s = (.ok metrics, u)) (ha : a ∈ metrics.flatten) :
    ∃ e ∈ c.entities, ∃ counter ∈ c.counters, ∃ v, Shows c.options e (counter, v) a := by
  obtain ⟨vss, -, rfl⟩ := readAll_of_collect h
  obtain ⟨⟨e, vs⟩, hx, ha⟩ := mem_flatten_iff.mp ha
  obtain ⟨⟨counter, v⟩, hy, hmetric⟩ := mem_metricsOf_iff.mp ha
  exact ⟨e, (List.of_mem_zip hx).1, counter, (List.of_mem_zip hy).1, v, shows_of_metric? hmetric⟩

/-- A partition with a profile has its labels. -/
theorem Shows.partition_of_named {x : Counter × FieldValue} {p : PartitionIdentity} (h : Shows options e x a)
    (hp : e.partition = some p) (hprofile : p.profile ≠ "") :
    a.partition = some { profile := p.profile, instanceId := toString p.instanceId } :=
  (h.partition _).mpr ⟨p, hp, hprofile, rfl⟩

theorem Shows.partition_of_nameless {x : Counter × FieldValue} {p : PartitionIdentity} (h : Shows options e x a)
    (hp : e.partition = some p) (hprofile : p.profile = "") : a.partition = none := by
  rw [Option.eq_none_iff_forall_ne_some]
  intro labels hlabels
  obtain ⟨p', hp', hprofile', -⟩ := (h.partition labels).mp hlabels
  rw [hp] at hp'
  cases hp'
  exact hprofile' hprofile

end Metrics
end Collector
end Telemetry
