import Mathlib.Data.List.Basic
import Telemetry.Proofs.Exposition.Spelling
import Telemetry.Proofs.Slots

/-! What grouping does to the samples. Block by block, a text has the first counter of every name, those
    of the catalog before those that only metrics have, and behind each the samples of its name in the
    order in which they come. Nothing of this depends on the places that grouping keeps for the names. -/

namespace Telemetry.Exposition

/-! ### First counters -/

/-- The counters that no earlier counter shares its name with. -/
def firsts : List Counter → List Counter
  | [] => []
  | c :: cs => c :: (firsts cs).filter fun d => d.name ≠ c.name

theorem firsts_filter (p : String → Bool) (cs : List Counter) :
    firsts (cs.filter fun c => p c.name) = (firsts cs).filter fun c => p c.name := by
  induction cs with
  | nil => rfl
  | cons c cs ih =>
    cases hc : p c.name with
    | true => simp [firsts, hc, ih, List.filter_filter, Bool.and_comm]
    | false =>
      -- A counter that is dropped takes no other out: the rest of its name is dropped too.
      have hrest : ∀ d ∈ firsts cs, (p d.name && decide (d.name ≠ c.name)) = p d.name := by
        intro d _
        by_cases hd : d.name = c.name <;> simp [hd, hc]
      rw [List.filter_cons_of_neg (by simp [hc]), ih, firsts, List.filter_cons_of_neg (by simp [hc]),
        List.filter_filter]
      exact (List.filter_congr hrest).symm

theorem firsts_append (cs ds : List Counter) :
    firsts (cs ++ ds) = firsts cs ++ (firsts ds).filter fun d => d.name ∉ cs.map Counter.name := by
  induction cs with
  | nil => exact (List.filter_eq_self.mpr (by simp)).symm
  | cons c cs ih =>
    have hsplit : ∀ d ∈ firsts ds, (decide (d.name ≠ c.name) && decide (d.name ∉ cs.map Counter.name)) =
        decide (d.name ∉ (c :: cs).map Counter.name) := by simp
    rw [List.cons_append, firsts, ih, List.filter_append, List.filter_filter, List.filter_congr hsplit]
    rfl

theorem mem_firsts_iff {c : Counter} {cs : List Counter} :
    c ∈ firsts cs ↔ cs.find? (fun d => d.name == c.name) = some c := by
  induction cs with
  | nil => simp [firsts]
  | cons d cs ih =>
    rw [firsts, List.mem_cons, List.mem_filter, ih, List.find?_cons]
    by_cases h : d.name = c.name
    · simp [h, eq_comm]
    · have hne : c ≠ d := fun e => h (e ▸ rfl)
      simp [hne, Ne.symm h, beq_eq_false_iff_ne.mpr h]

theorem firsts_sublist (cs : List Counter) : (firsts cs).Sublist cs := by
  induction cs with
  | nil => exact List.Sublist.refl _
  | cons c cs ih => exact (List.filter_sublist.trans ih).cons_cons c

theorem names_firsts (cs : List Counter) {name : String} :
    name ∈ (firsts cs).map Counter.name ↔ name ∈ cs.map Counter.name := by
  refine ⟨fun h => ((firsts_sublist cs).map Counter.name).subset h, fun h => ?_⟩
  obtain ⟨c, hc, rfl⟩ := List.mem_map.mp h
  have hfound : (cs.find? fun d => d.name == c.name).isSome := List.find?_isSome.mpr ⟨c, hc, beq_self_eq_true _⟩
  obtain ⟨d, hd⟩ := Option.isSome_iff_exists.mp hfound
  have hname : d.name = c.name := by simpa using List.find?_some hd
  exact List.mem_map.mpr ⟨d, mem_firsts_iff.mpr (hname ▸ hd), hname⟩

theorem nodup_firsts (cs : List Counter) : ((firsts cs).map Counter.name).Nodup := by
  induction cs with
  | nil => simp [firsts]
  | cons c cs ih =>
    refine List.nodup_cons.mpr ⟨by simp, ?_⟩
    exact ih.sublist (List.filter_sublist.map _)

/-- A counter joins the first ones if its name is new. -/
theorem firsts_concat (cs : List Counter) (c : Counter) :
    firsts (cs ++ [c]) = if c.name ∈ cs.map Counter.name then firsts cs else firsts cs ++ [c] := by
  rw [firsts_append]
  split
  · rename_i h
    rw [show firsts [c] = [c] from rfl, List.filter_cons_of_neg (by simpa using h), List.filter_nil, List.append_nil]
  · rename_i h
    rw [show firsts [c] = [c] from rfl, List.filter_cons_of_pos (by simpa using h), List.filter_nil]

/-! ### Blocks -/

/-- The counters that head the blocks: those of the catalog, then those that only metrics have. -/
def heads (catalog : List Counter) (metrics : MetricSet) : List Counter :=
  firsts catalog ++ firsts ((metrics.flatten.map Metric.counter).filter fun c => c.name ∉ catalog.map Counter.name)

/-- The samples of a name in the order in which they come. -/
def samplesOf (name : String) (ms : List Metric) : List Metric := ms.filter fun m => m.counter.name = name

theorem heads_eq_firsts (catalog : List Counter) (metrics : MetricSet) :
    heads catalog metrics = firsts (catalog ++ metrics.flatten.map Metric.counter) := by
  rw [heads, firsts_filter fun name => name ∉ catalog.map Counter.name, firsts_append]

/-- The blocks are those of the counters and the samples so far, and every name has the place of its
    block. -/
structure Regroups (cs : List Counter) (ms : List Metric) (g : Grouping) : Prop where
  blocks : g.blocks = (firsts cs).map fun c => { counter := c, samples := samplesOf c.name ms }
  slots : Indexes g.slots.get? (g.blocks.map fun b => b.counter.name)
  covered : ∀ m ∈ ms, m.counter.name ∈ cs.map Counter.name

namespace Regroups
variable {cs : List Counter} {ms : List Metric} {g : Grouping}

theorem empty : Regroups [] [] {} where
  blocks := rfl
  slots := Indexes.nil
  covered := by simp

theorem isSome_slot_iff (h : Regroups cs ms g) (name : String) :
    (g.slots.get? name).isSome = true ↔ name ∈ cs.map Counter.name := by
  rw [h.slots.isSome_iff, h.blocks, List.map_map, ← names_firsts cs]
  rfl

theorem append (h : Regroups cs ms g) {c : Counter} (hc : g.slots.get? c.name = none) :
    Regroups (cs ++ [c]) ms (g.append c) := by
  have hnew : c.name ∉ cs.map Counter.name := by
    rw [← h.isSome_slot_iff, hc]
    exact Bool.false_ne_true
  have hnone : samplesOf c.name ms = [] :=
    List.filter_eq_nil_iff.mpr fun m hm hname => hnew (by simpa [← of_decide_eq_true hname] using h.covered m hm)
  refine ⟨?_, ?_, fun m hm => ?_⟩
  · rw [firsts_concat, if_neg hnew, List.map_append, ← h.blocks, List.map_singleton, hnone]
    rfl
  · rw [Grouping.append, List.map_append, List.map_singleton]
    exact h.slots.append hc fun name => by simp
  · rw [List.map_append]
    exact List.mem_append_left _ (h.covered m hm)

theorem addCounter (h : Regroups cs ms g) (c : Counter) : Regroups (cs ++ [c]) ms (g.addCounter c) := by
  cases hc : g.slots.get? c.name with
  | none =>
    rw [Grouping.addCounter, hc]
    exact h.append hc
  | some slot =>
    have hold : c.name ∈ cs.map Counter.name := by
      rw [← h.isSome_slot_iff, hc]
      rfl
    rw [Grouping.addCounter, hc]
    refine ⟨?_, h.slots, fun m hm => ?_⟩
    · rw [firsts_concat, if_pos hold]
      exact h.blocks
    · rw [List.map_append]
      exact List.mem_append_left _ (h.covered m hm)

theorem addSample (h : Regroups cs ms g) {m : Metric} {slot : Nat} (hslot : g.slots.get? m.counter.name = some slot) :
    Regroups cs (ms ++ [m]) (g.addSample slot m) := by
  have hblocks := h.slots.modify_eq_map hslot fun b => { b with samples := b.samples ++ [m] }
  refine ⟨?_, ?_, fun n hn => ?_⟩
  · rw [Grouping.addSample, hblocks, h.blocks, List.map_map]
    refine List.map_congr_left fun c _ => ?_
    by_cases hc : c.name = m.counter.name
    · simp [samplesOf, hc]
    · simp [samplesOf, hc, Ne.symm hc]
  · have hnames : (g.addSample slot m).blocks.map (fun b => b.counter.name) =
        g.blocks.map fun b => b.counter.name := by
      rw [Grouping.addSample, hblocks, List.map_map]
      refine List.map_congr_left fun b _ => ?_
      simp only [Function.comp_apply]
      split <;> rfl
    rw [hnames]
    exact h.slots
  · rcases List.mem_append.mp hn with hn | hn
    · exact h.covered n hn
    · rw [List.mem_singleton.mp hn, ← h.isSome_slot_iff, hslot]
      rfl

/-- A sample goes to the block that its counter has, or would have been given before it. -/
theorem addMetric (h : Regroups cs ms g) (m : Metric) :
    Regroups (cs ++ [m.counter]) (ms ++ [m]) (g.addMetric m) := by
  have hcounter := h.addCounter m.counter
  cases hslot : g.slots.get? m.counter.name with
  | some slot =>
    rw [Grouping.addCounter, hslot] at hcounter
    rw [Grouping.addMetric, hslot]
    exact hcounter.addSample hslot
  | none =>
    rw [Grouping.addCounter, hslot] at hcounter
    rw [Grouping.addMetric, hslot]
    exact hcounter.addSample (by simp [Grouping.append])

theorem foldl_addCounter (h : Regroups cs ms g) (ds : List Counter) :
    Regroups (cs ++ ds) ms (ds.foldl Grouping.addCounter g) := by
  induction ds generalizing cs g with
  | nil => simpa using h
  | cons d ds ih => simpa using ih (h.addCounter d)

theorem foldl_addMetric (h : Regroups cs ms g) (ns : List Metric) :
    Regroups (cs ++ ns.map Metric.counter) (ms ++ ns) (ns.foldl Grouping.addMetric g) := by
  induction ns generalizing cs ms g with
  | nil => simpa using h
  | cons n ns ih => simpa using ih (h.addMetric n)

end Regroups

theorem regroups_group (catalog : List Counter) (metrics : MetricSet) :
    Regroups (catalog ++ metrics.flatten.map Metric.counter) metrics.flatten (group catalog metrics) :=
  (Regroups.empty.foldl_addCounter catalog).foldl_addMetric metrics.flatten

theorem blocks_group (catalog : List Counter) (metrics : MetricSet) :
    (group catalog metrics).blocks =
      (heads catalog metrics).map fun c => { counter := c, samples := samplesOf c.name metrics.flatten } := by
  rw [heads_eq_firsts]
  exact (regroups_group catalog metrics).blocks

theorem lines_eq (catalog : List Counter) (metrics : MetricSet) :
    lines catalog metrics = (heads catalog metrics).flatMap fun c =>
      helpLine c :: typeLine c :: (samplesOf c.name metrics.flatten).map sampleLine := by
  rw [lines, blocks_group, List.flatMap_map]
  rfl

/-- The lines of a name, each with its newline. -/
theorem unlines_block (c : Counter) (ms : List Metric) :
    Text.unlines (helpLine c :: typeLine c :: ms.map sampleLine) =
      (helpText c :: typeText c :: ms.map sampleText).flatMap String.toList := by
  simp only [Text.unlines, List.flatMap_cons, List.flatMap_map, toList_helpText, toList_typeText, toList_sampleText]

/-- A text is the lines of its names, as they are spelled. -/
theorem render_eq_join (catalog : List Counter) (metrics : MetricSet) :
    render catalog metrics = String.join ((heads catalog metrics).flatMap fun c =>
      helpText c :: typeText c :: (samplesOf c.name metrics.flatten).map sampleText) := by
  rw [← String.toList_inj, render, String.toList_ofList, lines_eq, String.toList_join, Text.unlines, List.flatMap_assoc,
    List.flatMap_assoc]
  congr 1
  funext c
  exact unlines_block c _

/-! ### Every sample once -/

theorem perm_samplesOf_heads (catalog : List Counter) (metrics : MetricSet) :
    ((heads catalog metrics).flatMap fun c => samplesOf c.name metrics.flatten).Perm metrics.flatten := by
  have hnodup : ((heads catalog metrics).map Counter.name).Nodup := by
    rw [heads_eq_firsts]
    exact nodup_firsts _
  have hmem : ∀ m ∈ metrics.flatten, m.counter.name ∈ (heads catalog metrics).map Counter.name := fun m hm => by
    rw [heads_eq_firsts, names_firsts]
    exact (regroups_group catalog metrics).covered m hm
  have hperm := perm_flatMap_filter hnodup hmem
  rwa [List.flatMap_map] at hperm

/-- A text is made of one block for every name, those of the catalog first and each in the order of its
    first occurrence: the two lines of the name's first counter and then the lines of all its samples in
    their order. Every sample has its place in exactly one block, and how the samples are divided into
    lists changes nothing. -/
theorem render_regroups (catalog : List Counter) (metrics : MetricSet) :
    render catalog metrics =
        String.join ((heads catalog metrics).flatMap fun c =>
          helpText c :: typeText c :: (samplesOf c.name metrics.flatten).map sampleText) ∧
      ((heads catalog metrics).map Counter.name).Nodup ∧
      (heads catalog metrics).Sublist (catalog ++ metrics.flatten.map Metric.counter) ∧
      (∀ c, c ∈ heads catalog metrics ↔
        (catalog ++ metrics.flatten.map Metric.counter).find? (fun d => d.name == c.name) = some c) ∧
      (∀ c ∈ catalog, c.name ∈ (heads catalog metrics).map Counter.name) ∧
      ((heads catalog metrics).flatMap fun c => samplesOf c.name metrics.flatten).Perm metrics.flatten ∧
      ∀ other : MetricSet, other.flatten = metrics.flatten → render catalog other = render catalog metrics := by
  refine ⟨render_eq_join catalog metrics, ?_, ?_, fun c => ?_, fun c hc => ?_, perm_samplesOf_heads catalog metrics,
    fun other h => ?_⟩
  · rw [heads_eq_firsts]
    exact nodup_firsts _
  · rw [heads_eq_firsts]
    exact firsts_sublist _
  · rw [heads_eq_firsts]
    exact mem_firsts_iff
  · rw [heads_eq_firsts, names_firsts, List.map_append]
    exact List.mem_append_left _ (List.mem_map_of_mem hc)
  · rw [render, render, lines, lines, group, group, h]

/-- A counter of a name and a help text. -/
def plainCounter (name help : String) : Counter := { field := 150, name, type := .gauge, help }

/-- A metric of the first device. -/
def plainMetric (counter : Counter) (value : String) : Metric where
  counter := counter
  value := value
  gpu := "0"
  uuid := "GPU-a"
  device := "nvidia0"
  model := "T4"
  style := .current
  partition := none
  hostname := none
  attributes := SortedMap.empty

/-- A name that the catalog has twice, one that no metric has, and one that only metrics have, which come in turn. -/
theorem render_regroups_mixture :
    let catalog := [plainCounter "temp" "a", plainCounter "power" "b", plainCounter "temp" "c"]
    let metrics :=
      [[plainMetric (plainCounter "fan" "d") "1", plainMetric (plainCounter "temp" "e") "2"], [],
        [plainMetric (plainCounter "fan" "f") "3", plainMetric (plainCounter "temp" "c") "4"]]
    let labels := "gpu=\"0\",UUID=\"GPU-a\",device=\"nvidia0\",modelName=\"T4\""
    render catalog metrics =
      "# HELP temp a\n# TYPE temp gauge\n" ++
        "temp\x7b" ++ labels ++ "\x7d 2\n" ++ "temp\x7b" ++ labels ++ "\x7d 4\n" ++
      "# HELP power b\n# TYPE power gauge\n" ++
      "# HELP fan d\n# TYPE fan gauge\n" ++
        "fan\x7b" ++ labels ++ "\x7d 1\n" ++ "fan\x7b" ++ labels ++ "\x7d 3\n" := by
  intro catalog metrics labels
  rw [(render_regroups catalog metrics).1]
  decide +kernel

end Telemetry.Exposition
