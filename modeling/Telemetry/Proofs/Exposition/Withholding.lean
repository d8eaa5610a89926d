import Telemetry.Proofs.Collector.Rows
import Telemetry.Proofs.Exposition.Lines

/-! Samples that are withheld. The lines of a text stand for what they show, and each sample is known with the entity
    that it is of; so to leave some of the samples out of what is shown is to leave their lines out of the text. -/

namespace Telemetry

/-! ### Metrics with their entities -/

/-- The metrics of a pass, each with its entity. -/
def rowsOf (es : List MonitoredEntity) (metrics : MetricSet) : List (MonitoredEntity × Metric) :=
  (es.zip metrics).flatMap fun x => x.2.map (x.1, ·)

/-- The metrics of which `keep` holds, each asked with its entity. -/
def MetricSet.kept (keep : MonitoredEntity → Metric → Bool) (es : List MonitoredEntity) (metrics : MetricSet) :
    MetricSet :=
  List.zipWith (fun e row => row.filter (keep e)) es metrics

section Rows
variable {keep : MonitoredEntity → Metric → Bool} {es : List MonitoredEntity} {metrics : MetricSet}

theorem map_snd_rowsOf (hlength : metrics.length = es.length) : (rowsOf es metrics).map Prod.snd = metrics.flatten := by
  have hrow (x : MonitoredEntity × List Metric) : (x.2.map (x.1, ·)).map Prod.snd = x.2 := by
    rw [List.map_map]
    exact List.map_id _
  rw [rowsOf, List.map_flatMap]
  simp only [hrow]
  rw [List.flatMap_def, List.map_snd_zip (Nat.le_of_eq hlength)]

theorem rowsOf_kept : rowsOf es (metrics.kept keep es) = (rowsOf es metrics).filter fun x => keep x.1 x.2 := by
  induction es generalizing metrics with
  | nil => rfl
  | cons e es ih =>
    cases metrics with
    | nil => rfl
    | cons row metrics =>
      have hrow : (row.filter (keep e)).map (e, ·) = (row.map (e, ·)).filter fun x => keep x.1 x.2 := by
        rw [List.filter_map]
        rfl
      simp only [rowsOf, MetricSet.kept, List.zipWith_cons_cons, List.zip_cons_cons, List.flatMap_cons,
        List.filter_append, hrow] at ih ⊢
      rw [ih]

theorem length_kept (hlength : metrics.length = es.length) : (metrics.kept keep es).length = es.length := by
  rw [MetricSet.kept, List.length_zipWith, hlength, Nat.min_self]

end Rows

namespace Exposition

/-! ### Lines for what they show -/

/-- What a line shows. -/
inductive Shown where
  | help (c : Counter)
  | type (c : Counter)
  | sample (e : MonitoredEntity) (m : Metric)

namespace Shown

/-- The line with its newline. -/
def text : Shown → String
  | help c => helpText c
  | type c => typeText c
  | sample _ m => sampleText m

/-- The lines of names are kept in any case. -/
def isKept (keep : MonitoredEntity → Metric → Bool) : Shown → Bool
  | sample e m => keep e m
  | _ => true

end Shown

/-- What the lines show for metrics of a catalog's counters, name by name. -/
def layout (catalog : List Counter) (rows : List (MonitoredEntity × Metric)) : List Shown :=
  (firsts catalog).flatMap fun c =>
    .help c :: .type c :: (rows.filter fun x => x.2.counter.name = c.name).map fun x => .sample x.1 x.2

/-- The text with a line for each of them. -/
def textOf (shown : List Shown) : String := String.join (shown.map Shown.text)

variable {catalog : List Counter} {es : List MonitoredEntity} {metrics : MetricSet}

theorem render_eq_textOf (hlength : metrics.length = es.length) (h : ∀ m ∈ metrics.flatten, m.counter ∈ catalog) :
    render catalog metrics = textOf (layout catalog (rowsOf es metrics)) := by
  rw [render_eq_join, heads_of_catalogued h, textOf, layout, List.map_flatMap, ← map_snd_rowsOf hlength]
  congr 2
  funext c
  rw [samplesOf, List.filter_map, List.map_cons, List.map_cons, List.map_map, List.map_map]
  rfl

theorem layout_filter (keep : MonitoredEntity → Metric → Bool) (rows : List (MonitoredEntity × Metric)) :
    layout catalog (rows.filter fun x => keep x.1 x.2) = (layout catalog rows).filter (Shown.isKept keep) := by
  rw [layout, layout, List.filter_flatMap]
  congr 1
  funext c
  have hsamples : (rows.filter fun x => keep x.1 x.2).filter (fun x => x.2.counter.name = c.name) =
      (rows.filter fun x => x.2.counter.name = c.name).filter fun x => keep x.1 x.2 := by
    rw [List.filter_filter, List.filter_filter]
    exact List.filter_congr fun x _ => Bool.and_comm ..
  rw [List.filter_cons_of_pos rfl, List.filter_cons_of_pos rfl, List.filter_map, hsamples]
  rfl

/-- What is withheld takes its lines out of the text and no others. -/
theorem render_kept (keep : MonitoredEntity → Metric → Bool) (hlength : metrics.length = es.length)
    (h : ∀ m ∈ metrics.flatten, m.counter ∈ catalog) :
    render catalog (metrics.kept keep es) =
      textOf ((layout catalog (rowsOf es metrics)).filter (Shown.isKept keep)) := by
  -- A metric of another counter would have its names after those of the catalog, and only if it is kept.
  have hkept : ∀ m ∈ (metrics.kept keep es).flatten, m.counter ∈ catalog := by
    rw [← map_snd_rowsOf (length_kept hlength), rowsOf_kept]
    rw [← map_snd_rowsOf hlength] at h
    exact fun m hm => h m ((List.filter_sublist.map _).subset hm)
  rw [render_eq_textOf (length_kept hlength) hkept, rowsOf_kept, layout_filter]

end Exposition
end Telemetry
