import Telemetry.Proofs.Exposition.Series

/-! The lines of a text. Each name has two, each metric has one, and what stands in a line cannot end it, as it has no
    line ends or they are escaped. Only texts that a manager reads are shown as they are: each line end within one of
    them splits the line that shows it. -/

namespace Telemetry

/-! ### Pieces between line ends -/

namespace Text

theorem length_split (sep : Char) (cs : List Char) : (split sep cs).length = cs.count sep + 1 := by
  induction cs with
  | nil => rfl
  | cons c cs ih =>
    rw [split]
    split
    · rename_i hc
      simp [hc, ih]
    · rename_i hc
      have hcount : (c :: cs).count sep = cs.count sep := List.count_cons_of_ne hc
      rw [hcount, ← ih]
      split
      · rename_i hnil
        exact absurd hnil (split_ne_nil sep cs)
      · rename_i hcons
        simp [hcons]

theorem count_unlines (ls : List (List Char)) : (unlines ls).count '\n' = ls.length + ls.flatten.count '\n' := by
  induction ls with
  | nil => rfl
  | cons l ls ih =>
    have hcons : unlines (l :: ls) = l ++ '\n' :: unlines ls := by simp [unlines]
    rw [hcons, List.count_append, List.count_cons_self, ih, List.flatten_cons, List.count_append, List.length_cons]
    omega

theorem length_unlines (ls : List (List Char)) : (unlines ls).length = ls.length + ls.flatten.length := by
  induction ls with
  | nil => rfl
  | cons l ls ih =>
    have hcons : unlines (l :: ls) = l ++ '\n' :: unlines ls := by simp [unlines]
    rw [hcons, List.length_append, List.length_cons, ih, List.flatten_cons, List.length_append, List.length_cons]
    omega

/-- A text has only the lines that it was made of if it has no more line ends than these. -/
theorem split_unlines_iff {ls : List (List Char)} :
    split '\n' (unlines ls) = ls ++ [[]] ↔ (unlines ls).count '\n' = ls.length := by
  constructor
  · intro h
    have hlength := congrArg List.length h
    rw [length_split, List.length_append, List.length_singleton] at hlength
    exact Nat.succ.inj hlength
  · intro h
    have hnone : ls.flatten.count '\n' = 0 := by
      rw [count_unlines] at h
      omega
    exact split_unlines fun l hl hmem => List.count_eq_zero.mp hnone (List.mem_flatten_of_mem hl hmem)

end Text

/-! ### Texts of readings -/

section Numbers

theorem newline_not_mem_toDigits (n : Nat) : '\n' ∉ Nat.toDigits 10 n := fun h => by
  have hdigit := Nat.isDigit_of_mem_toDigits (by decide) (by decide) h
  simp [Char.isDigit] at hdigit

theorem newline_not_mem_repr (n : Int) : '\n' ∉ n.repr.toList := by
  have htext (m : Nat) : '\n' ∉ m.repr.toList := by
    rw [Nat.repr, String.toList_ofList]
    exact newline_not_mem_toDigits m
  cases n with
  | ofNat m => exact htext m
  | negSucc m =>
    have happend : (Int.negSucc m).repr = "-" ++ (m + 1).repr := rfl
    rw [happend, String.toList_append, List.mem_append]
    exact not_or.mpr ⟨by decide, htext (m + 1)⟩

theorem newline_not_mem_lastDigits (places n : Nat) : '\n' ∉ Double.lastDigits places n := by
  induction places generalizing n with
  | zero => exact List.not_mem_nil
  | succ places ih =>
    rw [Double.lastDigits, List.mem_append, List.mem_singleton, not_or]
    refine ⟨ih _, fun h => ?_⟩
    have hdigit : (Nat.digitChar (n % 10)).isDigit = true := by
      rw [Nat.isDigit_digitChar, decide_eq_true_iff]
      exact Nat.mod_lt n (by decide)
    rw [← h] at hdigit
    simp [Char.isDigit] at hdigit

theorem newline_not_mem_sampleDouble (x : Double) : '\n' ∉ (sampleDouble x).toList := by
  rw [sampleDouble]
  split
  · decide
  split
  · split <;> decide
  · rw [Double.fixed, String.toList_ofList, Double.fixedChars]
    simp only [List.mem_append, List.mem_cons, not_or]
    exact ⟨⟨by split <;> decide, newline_not_mem_toDigits _⟩, by decide, newline_not_mem_lastDigits _ _⟩

end Numbers

namespace FieldValue

/-- The characters that are shown, none for the absence of a reading. -/
def chars (v : FieldValue) : List Char := (v.sample.map String.toList).getD []

/-- A text with a line end that was read as one, and that does not stand for the absence of a reading. -/
def Breaks (v : FieldValue) : Prop :=
  ∃ text, v.type = .string ∧ v.value = .string text ∧ Sentinel.isString text = false ∧ '\n' ∈ text.toList

/-- Numbers have no line ends, and neither has what stands for a value of another type. -/
theorem newline_mem_chars_iff {v : FieldValue} : '\n' ∈ v.chars ↔ v.Breaks := by
  have hfailure : '\n' ∉ conversionFailure.toList := by decide
  rw [chars, sample, Breaks]
  split
  · rename_i text htype hvalue
    split
    · rename_i hsentinel
      simp [htype, hvalue, hsentinel]
    · rename_i hsentinel
      simp [htype, hvalue, hsentinel]
  · rename_i x htype hvalue
    split <;> simp [htype, newline_not_mem_sampleDouble x]
  · rename_i n htype hvalue
    split <;> simp [htype, newline_not_mem_repr n.toInt]
  · rename_i hstring _ _
    refine iff_of_false (by simp [hfailure]) ?_
    rintro ⟨text, htype, hvalue, -⟩
    exact hstring text htype hvalue

end FieldValue

namespace Exposition

/-! ### Lines of a text -/

section Blocks
variable {m : Metric} {catalog : List Counter} {metrics : MetricSet}

theorem newline_not_mem_series (hname : PlainName m.counter.name) (hm : SoundKeys m) : '\n' ∉ series m := by
  simp [series, hname.newline_not_mem, newline_not_mem_labels hm.plain]

theorem count_sampleLines {ms : List Metric} (h : ∀ m ∈ ms, PlainName m.counter.name ∧ SoundKeys m) :
    (ms.map sampleLine).flatten.count '\n' = (ms.flatMap fun m => m.value.toList).count '\n' := by
  induction ms with
  | nil => rfl
  | cons m ms ih =>
    obtain ⟨hname, hm⟩ := h m List.mem_cons_self
    rw [List.map_cons, List.flatten_cons, List.count_append, ih fun n hn => h n (List.mem_cons_of_mem m hn),
      sampleLine_eq, List.count_append, List.count_eq_zero.mpr (newline_not_mem_series hname hm),
      List.count_cons_of_ne (by decide), Nat.zero_add, List.flatMap_cons, List.count_append]

theorem length_flatMap_blockLines (bs : List Block) :
    (bs.flatMap blockLines).length = 2 * bs.length + (bs.flatMap Block.samples).length := by
  induction bs with
  | nil => rfl
  | cons b bs ih =>
    simp only [List.flatMap_cons, List.length_append, ih, blockLines, List.length_cons, List.length_map]
    omega

/-- Line ends within lines are those within the values of samples. -/
theorem count_blockLines {bs : List Block}
    (h : ∀ b ∈ bs, PlainName b.counter.name ∧ ∀ m ∈ b.samples, PlainName m.counter.name ∧ SoundKeys m) :
    (bs.flatMap blockLines).flatten.count '\n' =
      ((bs.flatMap Block.samples).flatMap fun m => m.value.toList).count '\n' := by
  induction bs with
  | nil => rfl
  | cons b bs ih =>
    obtain ⟨hname, hsamples⟩ := h b List.mem_cons_self
    have hrest := ih fun b hb => h b (List.mem_cons_of_mem _ hb)
    rw [List.flatMap_cons, List.flatten_append, List.count_append, hrest, blockLines, List.flatten_cons,
      List.flatten_cons, List.count_append, List.count_append, count_sampleLines hsamples,
      List.count_eq_zero.mpr (newline_not_mem_helpLine hname), List.count_eq_zero.mpr (newline_not_mem_typeLine hname),
      Nat.zero_add, Nat.zero_add, List.flatMap_cons, List.flatMap_append, List.count_append]

/-- Metrics of a catalog's counters add no blocks to those of the catalog. -/
theorem heads_of_catalogued (h : ∀ m ∈ metrics.flatten, m.counter ∈ catalog) :
    heads catalog metrics = firsts catalog := by
  have hnone : (metrics.flatten.map Metric.counter).filter (fun c => c.name ∉ catalog.map Counter.name) = [] := by
    refine List.filter_eq_nil_iff.mpr fun c hc => ?_
    obtain ⟨m, hm, rfl⟩ := List.mem_map.mp hc
    simpa using ⟨m.counter, h m hm, rfl⟩
  rw [heads, hnone, firsts, List.append_nil]

theorem perm_flatMap_samples (catalog : List Counter) (metrics : MetricSet) :
    ((group catalog metrics).blocks.flatMap Block.samples).Perm metrics.flatten := by
  rw [blocks_group, List.flatMap_map]
  exact perm_samplesOf_heads catalog metrics

theorem length_lines (h : ∀ m ∈ metrics.flatten, m.counter ∈ catalog) :
    (lines catalog metrics).length = 2 * (firsts catalog).length + metrics.flatten.length := by
  rw [lines, length_flatMap_blockLines, (perm_flatMap_samples catalog metrics).length_eq, blocks_group, List.length_map,
    heads_of_catalogued h]

theorem length_flatten_blockLines (bs : List Block) :
    (bs.flatMap blockLines).flatten.length =
      (bs.flatMap fun b => helpLine b.counter ++ typeLine b.counter).length +
        ((bs.flatMap Block.samples).flatMap sampleLine).length := by
  induction bs with
  | nil => rfl
  | cons b bs ih =>
    have hsamples : (b.samples.map sampleLine).flatten = b.samples.flatMap sampleLine := rfl
    simp only [List.flatMap_cons, List.flatten_append, List.flatMap_append, List.length_append, ih, blockLines,
      List.flatten_cons, hsamples]
    omega

/-- The number of characters that the lines of samples take, line ends included. -/
def room (ms : List Metric) : Nat := ms.length + (ms.flatMap sampleLine).length

theorem room_append (ms ms' : List Metric) : room (ms ++ ms') = room ms + room ms' := by
  simp only [room, List.length_append, List.flatMap_append]
  omega

theorem room_set {i : Nat} (hi : i < metrics.length) (row : List Metric) :
    room (metrics.set i row).flatten =
      room (metrics.take i).flatten + room row + room (metrics.drop (i + 1)).flatten := by
  rw [List.set_eq_take_append_cons_drop, if_pos hi, List.flatten_append, List.flatten_cons, room_append, room_append]
  omega

/-- The length of a text is told by its catalog and its samples, whatever their order. -/
theorem length_render (h : ∀ m ∈ metrics.flatten, m.counter ∈ catalog) :
    (render catalog metrics).toList.length =
      2 * (firsts catalog).length + ((firsts catalog).flatMap fun k => helpLine k ++ typeLine k).length +
        room metrics.flatten := by
  have hheaders : ((group catalog metrics).blocks.flatMap fun b => helpLine b.counter ++ typeLine b.counter) =
      (firsts catalog).flatMap fun k => helpLine k ++ typeLine k := by
    rw [blocks_group, List.flatMap_map, heads_of_catalogued h]
  have hsamples := ((perm_flatMap_samples catalog metrics).flatMap_right sampleLine).length_eq
  rw [render, String.toList_ofList, Text.length_unlines, length_lines h, lines, length_flatten_blockLines, hheaders,
    hsamples, room]
  omega

theorem count_lines (hcatalog : ∀ c ∈ catalog, PlainName c.name)
    (h : ∀ m ∈ metrics.flatten, m.counter ∈ catalog ∧ SoundKeys m) :
    (lines catalog metrics).flatten.count '\n' = (metrics.flatten.flatMap fun m => m.value.toList).count '\n' := by
  have hplain : ∀ b ∈ (group catalog metrics).blocks,
      PlainName b.counter.name ∧ ∀ m ∈ b.samples, PlainName m.counter.name ∧ SoundKeys m := by
    rw [blocks_group, heads_of_catalogued fun m hm => (h m hm).1]
    refine List.forall_mem_map.mpr fun k hk => ⟨hcatalog k ((firsts_sublist _).subset hk), fun m hm => ?_⟩
    obtain ⟨hcounter, hkeys⟩ := h m (List.mem_of_mem_filter hm)
    exact ⟨hcatalog _ hcounter, hkeys⟩
  rw [lines, count_blockLines hplain]
  exact ((perm_flatMap_samples catalog metrics).flatMap_right _).count_eq _

end Blocks
end Exposition

namespace Collector
open DeviceManager (ReadAll)

/-! ### Lines of a pass -/

section Pass
variable {σ : Type} {m : DeviceManager σ} {c : Collector} {counters : List Counter} {options : CollectorOptions}

theorem flatMap_metricsOf (e : MonitoredEntity) {vs : List FieldValue} (hcount : vs.length = counters.length) :
    ((metricsOf options counters e vs).flatMap fun a => a.value.toList) = vs.flatMap FieldValue.chars := by
  induction vs generalizing counters with
  | nil => simp [metricsOf]
  | cons v vs ih =>
    cases counters with
    | nil => cases hcount
    | cons counter counters =>
      have hrest := ih (Nat.succ.inj hcount)
      rw [metricsOf] at hrest ⊢
      rw [List.zip_cons_cons, List.filterMap_cons, List.flatMap_cons, ← hrest]
      cases hsample : v.sample with
      | none => simp [metric?, hsample, FieldValue.chars]
      | some text => simp [metric?, hsample, FieldValue.chars]

/-- What the values of a pass have is what its readings show. -/
theorem flatMap_of_readAll {es : List MonitoredEntity} {vss : List (List FieldValue)} {s u : σ}
    (h : ReadAll m (fieldsOf counters) (es.map MonitoredEntity.entity) s vss u) :
    ((List.zipWith (metricsOf options counters) es vss).flatten.flatMap fun a => a.value.toList) =
      vss.flatten.flatMap FieldValue.chars := by
  induction es generalizing s vss with
  | nil =>
    cases h
    rfl
  | cons e es ih =>
    cases h with
    | cons hreading hcount hrest =>
      rw [length_fieldsOf] at hcount
      rw [List.zipWith_cons_cons, List.flatten_cons, List.flatten_cons, List.flatMap_append, List.flatMap_append,
        flatMap_metricsOf e hcount, ih hrest]

end Pass

section Text
open Exposition (firsts samplesOf helpLine typeLine sampleLine blockLines SoundKeys PlainName)
variable {σ : Type} {m : DeviceManager σ} {c : Collector} {bytes : List UInt8} {metrics shown : MetricSet}
  {list : Action σ Report PodListing} {t : Topology} {type : IdType} {style : LabelStyle} {s s₁ s₂ : σ}

/-- The text of a pass whose metrics were given labels for pods. It has two lines for each name of the catalog, in its
    order, and one for each metric; every one ends with a line end, and those within readings are all further ones. So
    the text has these lines and no others exactly if no text that was read has a line end. -/
theorem lines_of_pass (hcatalog : Catalog.ofBytes bytes = .ok c.counters) (hpass : c.collect m s = (.ok metrics, s₁))
    (hprocess : (Attribution.transform list type style).process t (metrics, s₁) = (.ok (), (shown, s₂))) :
    let text := (Exposition.render c.counters shown).toList
    let lines := (firsts c.counters).flatMap fun k =>
      helpLine k :: typeLine k :: (samplesOf k.name shown.flatten).map sampleLine
    ∃ vss, ReadAll m (fieldsOf c.counters) (c.entities.map MonitoredEntity.entity) s vss s₁ ∧
      text = Text.unlines lines ∧
      ((firsts c.counters).flatMap fun k => samplesOf k.name shown.flatten).Perm shown.flatten ∧
      lines.length = 2 * (firsts c.counters).length + metrics.flatten.length ∧
      text.count '\n' = lines.length + (vss.flatten.flatMap FieldValue.chars).count '\n' ∧
      (Text.split '\n' text = lines ++ [[]] ↔ ∀ v ∈ vss.flatten, ¬ v.Breaks) := by
  intro text lines
  obtain ⟨vss, hall, hmetrics⟩ := readAll_of_collect hpass
  obtain ⟨f, hf, rfl⟩ := Attribution.exists_annotated_of_process hprocess
  have hflatten : (metrics.map fun row => row.map f).flatten = metrics.flatten.map f := List.map_flatten.symm
  have hcatalogued : ∀ a ∈ (metrics.map fun row => row.map f).flatten, a.counter ∈ c.counters ∧ SoundKeys a := by
    rw [hflatten]
    exact List.forall_mem_map.mpr (Exposition.sound_of_collect hpass hf)
  have hcounters := fun a ha => (hcatalogued a ha).1
  have hplain : ∀ k ∈ c.counters, PlainName k.name := fun k hk =>
    Exposition.plainName_of_hasField (Catalog.hasField_of_ofBytes hcatalog k hk)
  have hheads := Exposition.heads_of_catalogued hcounters
  have hlines : Exposition.lines c.counters (metrics.map fun row => row.map f) = lines := by
    rw [Exposition.lines_eq, hheads]
  have htext : text = Text.unlines lines := by
    rw [← hlines]
    exact String.toList_ofList
  -- Labels for pods leave values alone, so line ends within lines are those of the readings.
  have hvalues : ((metrics.map fun row => row.map f).flatten.flatMap fun a => a.value.toList) =
      vss.flatten.flatMap FieldValue.chars := by
    rw [hflatten, List.flatMap_map]
    simp only [(hf _).value]
    rw [hmetrics, flatMap_of_readAll hall]
  have hcount : text.count '\n' = lines.length + (vss.flatten.flatMap FieldValue.chars).count '\n' := by
    rw [htext, Text.count_unlines, ← hvalues, ← Exposition.count_lines hplain hcatalogued, hlines]
  refine ⟨vss, hall, htext, ?_, ?_, hcount, ?_⟩
  · rw [← hheads]
    exact Exposition.perm_samplesOf_heads _ _
  · rw [← hlines, Exposition.length_lines hcounters, hflatten, List.length_map]
  · rw [htext] at hcount ⊢
    rw [Text.split_unlines_iff, hcount]
    simp only [Nat.add_eq_left, List.count_eq_zero, List.mem_flatMap, not_exists, not_and,
      FieldValue.newline_mem_chars_iff]

/-- A device manager that reads a text. -/
def textReading (text : String) : Script where
  values := [.ok [{ type := .string, value := .string text }]]

/-- A device to collect from. -/
def anyDevice : Topology where
  forest := { devices := [{ info := Script.plainDevice 0 }] }
  partitioning := false
  rules := .flex

def modelName : Counter := { field := 50, name := "DCGM_FI_DEV_NAME", type := .gauge, help := "Model." }

theorem ofBytes_modelName : Catalog.ofBytes "DCGM_FI_DEV_NAME,gauge,Model.".toUTF8.data.toList = .ok [modelName] := by
  decide +kernel

/-- One metric whose value has no line end. -/
theorem lines_of_pass_textReading :
    let list : Action Nat Report PodListing := fun s => (.ok (some []), s)
    ∃ c metrics, start (textReading "T4").manager anyDevice [modelName] {} 0 = (.ok c, 0) ∧
      Catalog.ofBytes "DCGM_FI_DEV_NAME,gauge,Model.".toUTF8.data.toList = .ok c.counters ∧
      c.collect (textReading "T4").manager 0 = (.ok metrics, 1) ∧
      (Attribution.transform list .uid .current).process anyDevice (metrics, 1) = (.ok (), (metrics, 1)) ∧
      (firsts c.counters).length = 1 ∧ metrics.flatten.length = 1 ∧
      (Exposition.render c.counters metrics).toList.count '\n' = 3 := by
  intro list
  obtain ⟨c, metrics, hstart, hcatalog, hentities, hpass, hprocess, hname, hone⟩ : ∃ c metrics,
      start (textReading "T4").manager anyDevice [modelName] {} 0 = (.ok c, 0) ∧
        Catalog.ofBytes "DCGM_FI_DEV_NAME,gauge,Model.".toUTF8.data.toList = .ok c.counters ∧
        c.entities.map MonitoredEntity.entity = [Entity.device 0] ∧
        c.collect (textReading "T4").manager 0 = (.ok metrics, 1) ∧
        (Attribution.transform list .uid .current).process anyDevice (metrics, 1) = (.ok (), (metrics, 1)) ∧
        (firsts c.counters).length = 1 ∧ metrics.flatten.length = 1 :=
    ⟨_, _, rfl, ofBytes_modelName, rfl, rfl, rfl, rfl, rfl⟩
  obtain ⟨vss, hall, -, -, hlength, hcount, -⟩ := lines_of_pass hcatalog hpass hprocess
  have hnone : (vss.flatten.flatMap FieldValue.chars).count '\n' = 0 := by
    rw [hentities] at hall
    cases hall with
    | cons hreading _ hrest =>
      cases hrest
      cases hreading
      decide
  rw [hlength, hname, hone, hnone] at hcount
  exact ⟨c, metrics, hstart, hcatalog, hpass, hprocess, hname, hone, hcount⟩

/-- A reading with a line end makes two lines of the sample that shows it. -/
theorem lines_of_pass_broken :
    let list : Action Nat Report PodListing := fun s => (.ok (some []), s)
    ∃ c metrics s₁ s₂ s₃, Catalog.ofBytes "DCGM_FI_DEV_NAME,gauge,Model.".toUTF8.data.toList = .ok c.counters ∧
      start (textReading "T4\nforged 1").manager anyDevice [modelName] {} 0 = (.ok c, s₁) ∧
      c.collect (textReading "T4\nforged 1").manager s₁ = (.ok metrics, s₂) ∧
      (Attribution.transform list .uid .current).process anyDevice (metrics, s₂) = (.ok (), (metrics, s₃)) ∧
      (firsts c.counters).length = 1 ∧ metrics.flatten.length = 1 ∧
      (Exposition.render c.counters metrics).toList.count '\n' = 4 ∧
      "forged 1".toList ∈ Text.split '\n' (Exposition.render c.counters metrics).toList := by
  intro list
  exact ⟨_, _, _, _, _, ofBytes_modelName, rfl, rfl, rfl, rfl, rfl, by decide +kernel, by decide +kernel⟩

end Text
end Collector
end Telemetry
