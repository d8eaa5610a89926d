import Telemetry.Proofs.Catalog.Fields
import Telemetry.Proofs.Collector.Rows
import Telemetry.Proofs.Exposition.Decoding
import Telemetry.Proofs.Pods.Labelling

/-! The series of samples: what stands in front of their values. Two samples are of one series if they have the same
    name and the same labels; and labels have one entry only for the device, and one for the profile. -/

namespace Telemetry.Exposition

variable {a b : Metric}

/-- The name of a sample with its labels. -/
def series (m : Metric) : List Char :=
  m.counter.name.toList ++ '\x7b' :: Text.join ',' (m.labels.map labelChars) ++ ['\x7d']

/-- The series of all samples of a text, in the order of their lines. -/
def allSeries (catalog : List Counter) (metrics : MetricSet) : List (List Char) :=
  (group catalog metrics).blocks.flatMap fun b => b.samples.map series

/-- Names of counters that are read from a catalog can be told from what stands around them. -/
theorem plainName_of_hasField {c : Counter} (h : Catalog.HasField c) : PlainName c.name := by
  obtain ⟨hnonempty, hchars⟩ := h.name_chars
  have hne (stop : Char) (hstop : stop.toNat < '$'.toNat ∨ 'z'.toNat < stop.toNat) : stop ∉ c.name.toList := by
    intro hmem
    have hrange := hchars stop hmem
    omega
  refine ⟨?_, fun hhead => hne '#' (by decide) (List.mem_of_mem_head? hhead), ?_⟩
  · intro hempty
    exact hnonempty (by rw [hempty]; rfl)
  · refine fun ch hch => ⟨?_, ?_, ?_⟩ <;> rintro rfl
    · exact hne ' ' (by decide) hch
    · exact hne '\n' (by decide) hch
    · exact hne '\x7b' (by decide) hch

theorem sampleLine_eq (m : Metric) : sampleLine m = series m ++ ' ' :: m.value.toList := by
  simp [sampleLine, series]

/-- Keys of attributes that can be told from the text around them, and from the key of the profile. -/
structure SoundKeys (m : Metric) : Prop where
  plain : ∀ x ∈ m.attributes.toList, PlainKey x.1
  profile : ∀ x ∈ m.attributes.toList, x.1 ≠ "GPU_I_PROFILE"

theorem soundKeys_of_bare (h : a.attributes = SortedMap.empty) : SoundKeys a := by
  have hnil : a.attributes.toList = [] := by rw [h]; rfl
  constructor <;> simp [hnil]

/-- Labels for pods are no labels of partitions, and can be told from the text around them. -/
theorem soundKeys_of_annotated {style : LabelStyle} (h : Attribution.Annotated style a b)
    (hbare : a.attributes = SortedMap.empty) : SoundKeys b := by
  have hkeys : ∀ key ∈ Attribution.podKeys style, PlainKey key ∧ key ≠ "GPU_I_PROFILE" := by
    cases style <;> decide
  have hmem : ∀ x ∈ b.attributes.toList, x.1 ∈ Attribution.podKeys style := by
    intro x hx
    refine (h.entries x hx).resolve_left ?_
    rw [hbare]
    exact List.not_mem_nil
  exact ⟨fun x hx => (hkeys _ (hmem x hx)).1, fun x hx => (hkeys _ (hmem x hx)).2⟩

/-- The metrics of a pass have sound keys and are of its counters, whatever labels for pods they are given. -/
theorem sound_of_collect {σ : Type} {m : DeviceManager σ} {c : Collector} {metrics : MetricSet} {s u : σ}
    {style : LabelStyle} {f : Metric → Metric} (h : c.collect m s = (.ok metrics, u))
    (hf : ∀ a, Attribution.Annotated style a (f a)) :
    ∀ a ∈ metrics.flatten, (f a).counter ∈ c.counters ∧ SoundKeys (f a) := by
  intro a ha
  obtain ⟨e, -, counter, hcounter, v, hshows⟩ := Collector.exists_shows_of_mem_flatten h ha
  rw [(hf a).counter, hshows.counter]
  exact ⟨hcounter, soundKeys_of_annotated (hf a) hshows.attributes⟩

theorem series_eq_iff (ha : SoundKeys a) (hb : SoundKeys b) (hname : '\x7b' ∉ a.counter.name.toList)
    (hname' : '\x7b' ∉ b.counter.name.toList) :
    series a = series b ↔ a.counter.name = b.counter.name ∧ a.labels = b.labels := by
  have hcut (m : Metric) (h : '\x7b' ∉ m.counter.name.toList) : cut? '\x7b' (series m) =
      some (m.counter.name.toList, Text.join ',' (m.labels.map labelChars) ++ ['\x7d']) := by
    rw [← cut?_append h]
    simp [series]
  have hread (m : Metric) (h : SoundKeys m) :
      readLabels? (Text.join ',' (m.labels.map labelChars) ++ ['\x7d']) = some (m.labels, []) := by
    have hne : m.labels ≠ [] := by simp [Metric.labels]
    exact readLabels?_join hne (fun label hl hm => (plainKey_of_mem_labels h.plain label hl _ hm).1 rfl) []
  constructor
  · intro h
    have hparts := hcut a hname
    rw [h, hcut b hname', Option.some_inj, Prod.mk.injEq, String.toList_inj] at hparts
    have hlabels := hread a ha
    rw [← hparts.2, hread b hb, Option.some_inj, Prod.mk.injEq] at hlabels
    exact ⟨hparts.1.symm, hlabels.1.symm⟩
  · rintro ⟨h, hlabels⟩
    rw [series, series, h, hlabels]

/-- The labels behind those of the device. -/
def furtherLabels (m : Metric) : List (String × String) :=
  (match m.partition with
    | none => []
    | some p => [("GPU_I_PROFILE", p.profile), ("GPU_I_ID", p.instanceId)]) ++
  m.hostname.toList.map (fun h => ("Hostname", h)) ++ m.attributes.toList

theorem labels_eq (m : Metric) : m.labels =
    [("gpu", m.gpu), (m.style.uuid, m.uuid), ("device", m.device), ("modelName", m.model)] ++ furtherLabels m := by
  cases hp : m.partition <;> simp [Metric.labels, furtherLabels, hp]

/-- Only a partition has the label of a profile behind those of the device. -/
theorem isSome_partition_of_head? (h : SoundKeys a) {profile : String}
    (hhead : (furtherLabels a).head? = some ("GPU_I_PROFILE", profile)) : a.partition.isSome := by
  cases hp : a.partition with
  | some p => rfl
  | none =>
    simp only [furtherLabels, hp, List.nil_append] at hhead
    cases hhost : a.hostname with
    | some host => simp [hhost] at hhead
    | none =>
      rw [hhost] at hhead
      exact absurd rfl (h.profile _ (List.mem_of_mem_head? hhead))

/-- Samples with the same labels are of one device, and have the same labels of a partition or none. -/
theorem identity_of_labels (ha : SoundKeys a) (hb : SoundKeys b) (h : a.labels = b.labels) :
    a.gpu = b.gpu ∧ a.partition = b.partition := by
  rw [labels_eq, labels_eq] at h
  obtain ⟨hdevice, hfurther⟩ := List.append_inj h rfl
  refine ⟨(Prod.mk.inj (List.cons.inj hdevice).1).2, ?_⟩
  cases hp : a.partition with
  | none =>
    cases hq : b.partition with
    | none => rfl
    | some q =>
      have hhead : (furtherLabels b).head? = some ("GPU_I_PROFILE", q.profile) := by simp [furtherLabels, hq]
      rw [← hfurther] at hhead
      have hsome := isSome_partition_of_head? ha hhead
      rw [hp] at hsome
      cases hsome
  | some p =>
    have hhead : (furtherLabels a).head? = some ("GPU_I_PROFILE", p.profile) := by simp [furtherLabels, hp]
    rw [hfurther] at hhead
    obtain ⟨q, hq⟩ := Option.isSome_iff_exists.mp (isSome_partition_of_head? hb hhead)
    simp only [furtherLabels, hp, hq, List.cons_append, List.cons.injEq, Prod.mk.injEq, true_and] at hfurther
    rw [hq, Option.some_inj, PartitionLabels.mk.injEq]
    exact ⟨hfurther.1, hfurther.2.1⟩

/-- Every sample of a text is of one series. -/
theorem perm_allSeries (catalog : List Counter) (metrics : MetricSet) :
    (allSeries catalog metrics).Perm (metrics.flatten.map series) := by
  have hperm := (perm_samplesOf_heads catalog metrics).map series
  rw [List.map_flatMap] at hperm
  rw [allSeries, blocks_group, List.flatMap_map]
  exact hperm

end Telemetry.Exposition
