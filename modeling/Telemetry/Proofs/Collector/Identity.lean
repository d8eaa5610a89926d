import Telemetry.Proofs.Exposition.Series
import Telemetry.Proofs.Numeral
import Telemetry.Proofs.Topology.Selecting

/-! Which entity a series is of. Labels tell the entities of a pass apart but for partitions of one device that have
    no profile, or that have the same one and the same number within the device. Without these, and without a name
    that comes twice in the catalog, no series comes twice in a text. -/

namespace Telemetry

namespace Topology
open Forest

/-! ### Selected entities -/

section Told
variable {infos : List DeviceInfo} {listing : List HierarchyEntry} {names : List (Entity × String)}
  {e e' : MonitoredEntity}

theorem Told.isSome_partition_iff (h : Told infos listing names e) :
    e.partition.isSome ↔ e.entity.cls = .partition := by
  cases h <;> simp [Entity.device, Entity.partition]

theorem Told.entity_eq (h : Told infos listing names e) (horder : InOrder infos) (hnone : e.partition = none) :
    e.entity = Entity.device e.device.index := by
  cases h with
  | device hinfo => rw [horder.index_eq hinfo, UInt32.ofNat_toNat]
  | partition => cases hnone

theorem Told.getElem?_index (h : Told infos listing names e) (horder : InOrder infos) :
    infos[e.device.index.toNat]? = some e.device := by
  cases h with
  | device hinfo =>
    rw [horder.index_eq hinfo, UInt32.ofNat_toNat]
    exact hinfo
  | partition _ hinfo =>
    rw [horder.index_eq hinfo, UInt32.ofNat_toNat]
    exact hinfo

end Told

/-- All are devices or all are partitions. -/
theorem chosen_cls (rules : SelectionRules) (count : Nat) (listing : List HierarchyEntry) :
    (∀ x ∈ chosen rules count listing, x.cls = .device) ∨ ∀ x ∈ chosen rules count listing, x.cls = .partition := by
  have hdevices : ∀ x ∈ deviceEntities count, x.cls = .device := by
    intro x hx
    obtain ⟨i, -, rfl⟩ := List.mem_map.mp hx
    rfl
  have hpartitions : ∀ x ∈ partitionEntities count listing, x.cls = .partition := by
    intro x hx
    obtain ⟨i, -, hx⟩ := List.mem_flatMap.mp hx
    obtain ⟨e, -, rfl⟩ := List.mem_map.mp hx
    rfl
  rcases rules with - | ⟨d, - | - | ids⟩
  · rw [chosen]
    split
    · exact .inl hdevices
    · exact .inr hpartitions
  · rcases d with - | - | is
    · exact .inl (by simp [chosen])
    · exact .inl hdevices
    · exact .inl (List.forall_mem_map.mpr fun _ _ => rfl)
  · exact .inr hpartitions
  · exact .inr (List.forall_mem_map.mpr fun _ _ => rfl)

/-- What can be told of selected entities from their devices and from whether they are partitions. -/
structure Identified (es : List MonitoredEntity) : Prop where
  nodup : (es.map MonitoredEntity.entity).Nodup
  device : ∀ e ∈ es, ∀ e' ∈ es, e.device.index = e'.device.index → e.device = e'.device
  entity : ∀ e ∈ es, e.partition = none → e.entity = Entity.device e.device.index
  alike : (∀ e ∈ es, e.partition = none) ∨ ∀ e ∈ es, e.partition.isSome

section Build
variable {σ : Type} {m : DeviceManager σ} {text : String} {rules : SelectionRules} {permit : Bool} {s s' : σ}
  {t : Topology} {report : BuildReport} {es : List MonitoredEntity}

theorem identified_of_build (hindex : TellsIndices m) (hparse : SelectionRules.parse text = .ok rules)
    (hbuild : build m rules permit s = (.ok (t, report), s')) (hselected : t.selected = .ok es) : Identified es := by
  obtain ⟨es', hes', hpresents⟩ := selected_of_build hindex hbuild
  obtain rfl : es' = es := Except.ok.inj (hes'.symm.trans hselected)
  obtain ⟨-, hbuilt⟩ := built_of_build hbuild
  have horder := hindex.inOrder s
  have hparents : ∀ e ∈ under .device (answers m s).entries, e.parent.id.toNat < (answers m s).total.toNat := by
    rw [← length_devices_answers]
    exact hbuilt.parent_lt
  have hnodup : (chosen rules (answers m s).total.toNat (answers m s).entries).Nodup :=
    nodup_chosen (Nat.le_of_lt (UInt32.toNat_lt _)) hparents hbuilt.ids_nodup
      ((listed_pairwise hparse .device).imp UInt32.ne_of_lt) ((listed_pairwise hparse .partition).imp UInt32.ne_of_lt)
  have hcls := chosen_cls rules (answers m s).total.toNat (answers m s).entries
  rw [← hpresents.entities] at hnodup hcls
  refine ⟨hnodup, fun e he e' he' hsame => ?_, fun e he => (hpresents.told e he).entity_eq horder, ?_⟩
  · have hdevice := (hpresents.told e he).getElem?_index horder
    rw [hsame, (hpresents.told e' he').getElem?_index horder] at hdevice
    exact (Option.some.inj hdevice).symm
  · refine hcls.imp (fun hall e he => ?_) fun hall e he => ?_
    · rw [← Option.not_isSome_iff_eq_none, (hpresents.told e he).isSome_partition_iff,
        hall _ (List.mem_map_of_mem he)]
      decide
    · rw [(hpresents.told e he).isSome_partition_iff]
      exact hall _ (List.mem_map_of_mem he)

/-- A report that is complete has not found a partition without a profile. -/
theorem profile_ne_empty_of_build (hbuild : build m rules permit s = (.ok (t, report), s'))
    (hcomplete : report.isComplete) : ∀ p ∈ t.forest.partitions, p.profile ≠ "" := by
  intro p hp hempty
  obtain ⟨-, hbuilt⟩ := built_of_build hbuild
  obtain ⟨f, hlinks, -, hresolve⟩ := hbuilt.forest
  have hentity : Entity.partition p.id ∈ f.entities := by
    rw [hlinks.entities_eq, ← hbuilt.links.entities_eq]
    exact List.mem_append_left _ (List.mem_map_of_mem hp)
  have hnameless : t.forest.isNameless (Entity.partition p.id) = true := by
    have hfound := hbuilt.links.partition?_eq_some_iff.mpr ⟨hp, rfl⟩
    simp [isNameless, Entity.partition, hfound, hempty]
  have hforest : (f.renameAll (answers m s).told).1 = t.forest := congrArg Prod.fst hresolve
  have hmissing : (Entity.partition p.id, .missing) ∈ report.unresolved := by
    have hreport : report.unresolved = (f.resolve (answers m s).told).2.unresolved :=
      congrArg (fun x => x.2.unresolved) hresolve.symm
    rw [hreport]
    refine List.mem_append_right _ (List.mem_map_of_mem (List.mem_filter.mpr ⟨hentity, ?_⟩))
    rw [hforest]
    exact hnameless
  rw [List.isEmpty_iff.mp hcomplete] at hmissing
  cases hmissing

/-- Partitions that their labels do not tell apart: they are of one device, and neither has a profile or both have the
    same one and the same number within the device. -/
def Indistinct (e e' : MonitoredEntity) : Prop :=
  ∃ p p', e.partition = some p ∧ e'.partition = some p' ∧ e.device = e'.device ∧
    ((p.profile = "" ∧ p'.profile = "") ∨ (p.profile = p'.profile ∧ p.instanceId = p'.instanceId))

/-- After a complete build, numbers that differ within each device tell all partitions apart. -/
theorem not_indistinct_of_build (hindex : TellsIndices m) (hbuild : build m rules permit s = (.ok (t, report), s'))
    (hselected : t.selected = .ok es) (hcomplete : report.isComplete)
    (hnumbers : ∀ i, ((t.partitionsOf i).map fun p => p.info.instanceId).Nodup) :
    ∀ e ∈ es, ∀ e' ∈ es, Indistinct e e' → e.entity = e'.entity := by
  rintro e he e' he' ⟨p, p', hp, hp', hdevice, hsame⟩
  obtain ⟨-, hbuilt⟩ := built_of_build hbuild
  have hprofiles := profile_ne_empty_of_build hbuild hcomplete
  -- A partition is among those of the index that its device has.
  have hnode {e : MonitoredEntity} {p : PartitionIdentity} (he : e ∈ es) (hp : e.partition = some p) :
      ∃ n ∈ t.partitionsOf e.device.index, e.entity = Entity.partition n.id ∧ p.instanceId = n.info.instanceId ∧
        p.profile ≠ "" := by
    cases offers_of_selected hselected e he with
    | device => cases hp
    | @partition n d hn hd =>
      cases hp
      have hindexed : d.index = n.device := by
        rw [deviceOf?, device?, devices, hbuilt.links.devices] at hd
        rw [(hindex.inOrder s).index_eq hd, UInt32.ofNat_toNat]
      refine ⟨n, ?_, rfl, rfl, hprofiles n hn⟩
      rw [partitionsOf_eq hbuilt.links, List.mem_filter, decide_eq_true_iff]
      exact ⟨hn, hindexed.symm⟩
  obtain ⟨n, hn, hentity, hnumber, hprofile⟩ := hnode he hp
  obtain ⟨n', hn', hentity', hnumber', -⟩ := hnode he' hp'
  rcases hsame with ⟨hempty, -⟩ | ⟨-, hequal⟩
  · exact absurd hempty hprofile
  · rw [← hdevice] at hn'
    rw [hnumber, hnumber'] at hequal
    rw [hentity, hentity', List.inj_on_of_nodup_map (hnumbers _) hn hn' hequal]

end Build
end Topology

namespace Collector
open Exposition (series allSeries sampleLine SoundKeys)
open Telemetry.Topology (Identified Indistinct TellsIndices)

/-! ### Metrics of entities -/

section Shows
variable {options : CollectorOptions} {es : List MonitoredEntity} {e e' : MonitoredEntity}
  {x x' : Counter × FieldValue} {a b : Metric}

theorem labels?_eq_iff {p p' : PartitionIdentity} :
    p.labels? = p'.labels? ↔
      (p.profile = "" ∧ p'.profile = "") ∨ (p.profile = p'.profile ∧ p.instanceId = p'.instanceId) := by
  by_cases hp : p.profile = ""
  · by_cases hp' : p'.profile = ""
    · simp [PartitionIdentity.labels?, hp, hp']
    · simp [PartitionIdentity.labels?, hp, hp', Ne.symm hp']
  · by_cases hp' : p'.profile = ""
    · simp [PartitionIdentity.labels?, hp, hp']
    · simp [PartitionIdentity.labels?, hp, hp', Numeral.toString_inj]

theorem Shows.partition_eq (h : Shows options e x a) : a.partition = e.partition.bind PartitionIdentity.labels? := by
  refine Option.ext fun labels => ?_
  rw [h.partition, Option.bind_eq_some_iff]
  simp only [labels?_eq_some_iff]

/-- The index of the device and the labels of the partition tell the entities of a pass apart, as far as they can be
    told apart. -/
theorem identity_eq_iff (hes : Identified es) (he : e ∈ es) (he' : e' ∈ es) (ha : Shows options e x a)
    (hb : Shows options e' x' b) :
    (a.gpu = b.gpu ∧ a.partition = b.partition) ↔ e.entity = e'.entity ∨ Indistinct e e' := by
  rw [ha.gpu, hb.gpu, Numeral.toString_inj, ha.partition_eq, hb.partition_eq]
  constructor
  · rintro ⟨hindex, hlabels⟩
    have hdevice := hes.device e he e' he' hindex
    -- A pass has only devices, which their indices tell apart, or only partitions.
    rcases hes.alike with hall | hall
    · left
      rw [hes.entity e he (hall e he), hes.entity e' he' (hall e' he'), hindex]
    · right
      obtain ⟨p, hp⟩ := Option.isSome_iff_exists.mp (hall e he)
      obtain ⟨p', hp'⟩ := Option.isSome_iff_exists.mp (hall e' he')
      rw [hp, hp', Option.bind_some, Option.bind_some, labels?_eq_iff] at hlabels
      exact ⟨p, p', hp, hp', hdevice, hlabels⟩
  · rintro (hentity | ⟨p, p', hp, hp', hdevice, hsame⟩)
    · rw [List.inj_on_of_nodup_map hes.nodup he he' hentity]
      exact ⟨rfl, rfl⟩
    · rw [hp, hp', Option.bind_some, Option.bind_some, labels?_eq_iff, hdevice]
      exact ⟨rfl, hsame⟩

/-- Metrics have the same labels if they are of one device and have the same labels of a partition. -/
theorem labels_eq_iff (hes : Identified es) (he : e ∈ es) (he' : e' ∈ es) (ha : Shows options e x a)
    (hb : Shows options e' x' b) : a.labels = b.labels ↔ a.gpu = b.gpu ∧ a.partition = b.partition := by
  constructor
  · exact Exposition.identity_of_labels (Exposition.soundKeys_of_bare ha.attributes)
      (Exposition.soundKeys_of_bare hb.attributes)
  · rintro ⟨hgpu, hpartition⟩
    have hindex := hgpu
    rw [ha.gpu, hb.gpu, Numeral.toString_inj] at hindex
    have hdevice := hes.device e he e' he' hindex
    rw [Metric.labels, Metric.labels, hgpu, hpartition, ha.uuid, hb.uuid, ha.device, hb.device, ha.model, hb.model,
      ha.style, hb.style, ha.hostname, hb.hostname, ha.attributes, hb.attributes, hdevice]

end Shows

/-! ### Passes -/

theorem pairwise_zip {α β : Type} {R : α → α → Prop} {l : List α} {l' : List β} (hlength : l.length ≤ l'.length)
    (h : l.Pairwise R) : (l.zip l').Pairwise fun x y => R x.1 y.1 := by
  rwa [← List.map_fst_zip hlength, List.pairwise_map] at h

section Pass
variable {σ : Type} {m : DeviceManager σ} {c : Collector} {s u : σ} {metrics : MetricSet}

/-- Metrics at two places of a pass are of two counters or of two entities. -/
theorem pairwise_of_collect (h : c.collect m s = (.ok metrics, u)) (hnames : (c.counters.map Counter.name).Nodup)
    (hentities : (c.entities.map MonitoredEntity.entity).Nodup) :
    metrics.flatten.Pairwise fun a b => a.counter.name ≠ b.counter.name ∨
      ∃ e ∈ c.entities, ∃ e' ∈ c.entities, e.entity ≠ e'.entity ∧ (∃ x, Shows c.options e x a) ∧
        ∃ x, Shows c.options e' x b := by
  obtain ⟨vss, hall, rfl⟩ := readAll_of_collect h
  have hlength : c.entities.length ≤ vss.length := by rw [hall.length_eq, List.length_map]
  rw [← List.map_uncurry_zip_eq_zipWith, List.pairwise_flatten, List.pairwise_map]
  constructor
  · -- within the row of one entity, whose metrics are of different counters
    intro row hrow
    obtain ⟨⟨e, vs⟩, hx, rfl⟩ := List.mem_map.mp hrow
    have hcount := hall.length_of_mem vs (List.of_mem_zip hx).2
    rw [length_fieldsOf] at hcount
    refine List.pairwise_filterMap.mpr ((pairwise_zip hcount.ge (List.pairwise_map.mp hnames)).imp ?_)
    intro x y hne a ha b hb
    have hcounter := (shows_of_metric? ha).counter
    have hcounter' := (shows_of_metric? hb).counter
    left
    rw [hcounter, hcounter']
    exact hne
  · -- between the rows of different entities
    refine (pairwise_zip hlength (List.pairwise_map.mp hentities)).imp_of_mem ?_
    intro x y hx hy hne a ha b hb
    obtain ⟨z, -, hz⟩ := mem_metricsOf_iff.mp ha
    obtain ⟨w, -, hw⟩ := mem_metricsOf_iff.mp hb
    exact .inr ⟨x.1, (List.of_mem_zip hx).1, y.1, (List.of_mem_zip hy).1, hne, ⟨_, shows_of_metric? hz⟩,
      ⟨_, shows_of_metric? hw⟩⟩

/-- Where no two entities of a pass are indistinct and no name comes twice, no series does, whatever labels for pods
    the metrics are given. -/
theorem nodup_allSeries {style : LabelStyle} {f : Metric → Metric} (h : c.collect m s = (.ok metrics, u))
    (hes : Identified c.entities) (hbraces : ∀ counter ∈ c.counters, '\x7b' ∉ counter.name.toList)
    (hnames : (c.counters.map Counter.name).Nodup)
    (hdistinct : ∀ e ∈ c.entities, ∀ e' ∈ c.entities, Indistinct e e' → e.entity = e'.entity)
    (hf : ∀ a, Attribution.Annotated style a (f a)) (catalog : List Counter) :
    (allSeries catalog (metrics.map fun row => row.map f)).Nodup := by
  have hflatten : (metrics.map fun row => row.map f).flatten = metrics.flatten.map f := List.map_flatten.symm
  rw [(Exposition.perm_allSeries _ _).nodup_iff, hflatten, List.map_map, List.Nodup, List.pairwise_map]
  have hsound := Exposition.sound_of_collect h hf
  refine (pairwise_of_collect h hnames hes.nodup).imp_of_mem fun {a b} ha hb hapart heq => ?_
  obtain ⟨hcountera, hsounda⟩ := hsound a ha
  obtain ⟨hcounterb, hsoundb⟩ := hsound b hb
  obtain ⟨hname, hlabels⟩ :=
    (Exposition.series_eq_iff hsounda hsoundb (hbraces _ hcountera) (hbraces _ hcounterb)).mp heq
  rw [(hf a).counter, (hf b).counter] at hname
  rcases hapart with hne | ⟨e, he, e', he', hne, ⟨x, hx⟩, x', hx'⟩
  · exact hne hname
  · have hidentity := Exposition.identity_of_labels hsounda hsoundb hlabels
    rw [(hf a).gpu, (hf b).gpu, (hf a).partition, (hf b).partition, identity_eq_iff hes he he' hx hx'] at hidentity
    exact hne (hidentity.elim id (hdistinct e he e' he'))

end Pass

section Build
variable {σ : Type} {m : DeviceManager σ} {text : String} {rules : SelectionRules} {permit : Bool} {t : Topology}
  {report : BuildReport} {counters : List Counter} {options : CollectorOptions} {c : Collector} {metrics : MetricSet}
  {s₀ s₁ s₂ s₃ s₄ s₅ : σ}

/-- A pass selects no entity twice, and two of its metrics are of one series, which is what their lines have in front of
    their values, exactly if they have one name and are of one entity, or of two partitions that are indistinct. With a
    complete report, numbers that differ within each device and no name twice, no series comes twice in a text, with
    labels for pods or without. -/
theorem series_identify_entities (hindex : TellsIndices m) (hparse : SelectionRules.parse text = .ok rules)
    (hbuild : Topology.build m rules permit s₀ = (.ok (t, report), s₁))
    (hbraces : ∀ counter ∈ counters, '\x7b' ∉ counter.name.toList)
    (hstart : start m t counters options s₂ = (.ok c, s₃)) (hpass : c.collect m s₄ = (.ok metrics, s₅)) :
    metrics.length = c.entities.length ∧ (c.entities.map MonitoredEntity.entity).Nodup ∧
    (∀ e ∈ c.entities, t.Offers e) ∧
    (∀ a, sampleLine a = series a ++ ' ' :: a.value.toList) ∧
    (∀ e row e' row', (e, row) ∈ c.entities.zip metrics → (e', row') ∈ c.entities.zip metrics →
      ∀ a ∈ row, ∀ b ∈ row',
        series a = series b ↔ a.counter.name = b.counter.name ∧ (e.entity = e'.entity ∨ Indistinct e e')) ∧
    ((counters.map Counter.name).Nodup → report.isComplete →
      (∀ i, ((t.partitionsOf i).map fun p => p.info.instanceId).Nodup) →
      (allSeries counters metrics).Nodup ∧
        ∀ (list : Action σ Report PodListing) type style shown u v,
          (Attribution.transform list type style).process t (metrics, u) = (.ok (), (shown, v)) →
            (allSeries counters shown).Nodup) ∧
    ∀ bytes catalog, Catalog.ofBytes bytes = .ok catalog → ∀ counter ∈ catalog, '\x7b' ∉ counter.name.toList := by
  obtain ⟨hselected, rfl, rfl⟩ := start_eq_ok hstart
  have hes := Topology.identified_of_build hindex hparse hbuild hselected
  refine ⟨length_of_collect hpass, hes.nodup, Topology.offers_of_selected hselected,
    Exposition.sampleLine_eq, ?pairs, ?texts, ?catalogs⟩
  case catalogs =>
    intro bytes catalog hcatalog counter hcounter
    have hfield := Catalog.hasField_of_ofBytes hcatalog counter hcounter
    exact (Exposition.plainName_of_hasField hfield).brace_not_mem
  case pairs =>
    intro e row e' row' hrow hrow' a ha b hb
    obtain ⟨counter, hcounter, v, hshows⟩ := exists_shows_of_mem_zip hpass hrow ha
    obtain ⟨counter', hcounter', v', hshows'⟩ := exists_shows_of_mem_zip hpass hrow' hb
    have he := (List.of_mem_zip hrow).1
    have he' := (List.of_mem_zip hrow').1
    rw [Exposition.series_eq_iff (Exposition.soundKeys_of_bare hshows.attributes)
        (Exposition.soundKeys_of_bare hshows'.attributes) (by rw [hshows.counter]; exact hbraces counter hcounter)
        (by rw [hshows'.counter]; exact hbraces counter' hcounter'),
      labels_eq_iff hes he he' hshows hshows', identity_eq_iff hes he he' hshows hshows']
  case texts =>
    intro hnames hcomplete hnumbers
    have hdistinct := Topology.not_indistinct_of_build hindex hbuild hselected hcomplete hnumbers
    constructor
    · have hnodup := nodup_allSeries hpass hes hbraces hnames hdistinct (Attribution.Annotated.refl .current) c.counters
      simpa only [List.map_id'] using hnodup
    · intro list type style shown u v hprocess
      obtain ⟨f, hf, rfl⟩ := Attribution.exists_annotated_of_process hprocess
      exact nodup_allSeries hpass hes hbraces hnames hdistinct hf c.counters

/-- A device with two partitions of one profile. -/
def twoOfOneProfile : Script where
  count := some (.ok 1)
  hierarchy := .ok
    [{ parent := .device 0, entity := .partition 7, info := { instanceId := 1 } },
      { parent := .device 0, entity := .partition 9, info := { instanceId := 2 } }]
  names := some (.ok [(Entity.partition 7, "1g.5gb"), (Entity.partition 9, "1g.5gb")])
  values := [.ok [{ type := .int64, value := .int64 42 }]]

theorem series_identify_entities_twoOfOneProfile :
    TellsIndices twoOfOneProfile.manager ∧ SelectionRules.parse "i" = .ok (.explicit none (some .all)) ∧
    ∃ t report c metrics s₁ s₂ s₃,
      Topology.build twoOfOneProfile.manager (.explicit none (some .all)) false 0 = (.ok (t, report), s₁) ∧
      start twoOfOneProfile.manager t [temperature] {} s₁ = (.ok c, s₂) ∧
      c.collect twoOfOneProfile.manager s₂ = (.ok metrics, s₃) ∧
      metrics.flatten.length = 2 ∧ (allSeries [temperature] metrics).Nodup := by
  have hindex : TellsIndices twoOfOneProfile.manager := by
    rintro i s info ⟨⟩
    rfl
  have hparse : SelectionRules.parse "i" = .ok (.explicit none (some .all)) := by decide
  have hbraces : ∀ counter ∈ [temperature], '\x7b' ∉ counter.name.toList := by decide
  obtain ⟨t, report, c, metrics, s₁, s₂, s₃, hbuild, hstart, hpass, hlength, hcomplete, hall⟩ :
      ∃ t report c metrics s₁ s₂ s₃,
        Topology.build twoOfOneProfile.manager (.explicit none (some .all)) false 0 = (.ok (t, report), s₁) ∧
          start twoOfOneProfile.manager t [temperature] {} s₁ = (.ok c, s₂) ∧
          c.collect twoOfOneProfile.manager s₂ = (.ok metrics, s₃) ∧ metrics.flatten.length = 2 ∧ report.isComplete ∧
          (t.forest.partitions.map fun p => p.info.instanceId) = [1, 2] :=
    ⟨_, _, _, _, _, _, _, rfl, rfl, rfl, rfl, rfl, rfl⟩
  have hnumbers (i : UInt32) : ((t.partitionsOf i).map fun p => p.info.instanceId).Nodup := by
    rw [Topology.partitionsOf_eq (Topology.built_of_build hbuild).2.links]
    refine List.Nodup.sublist (List.filter_sublist.map _) ?_
    rw [hall]
    decide
  obtain ⟨-, -, -, -, -, htexts, -⟩ := series_identify_entities hindex hparse hbuild hbraces hstart hpass
  exact ⟨hindex, hparse, t, report, c, metrics, s₁, s₂, s₃, hbuild, hstart, hpass, hlength,
    (htexts (List.nodup_singleton _) hcomplete hnumbers).1⟩

end Build
end Collector
end Telemetry
