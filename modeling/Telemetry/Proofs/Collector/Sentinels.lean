import Telemetry.Proofs.Exposition.Lines
import Telemetry.Simulation.Manager

/-! Sentinels in a pass. One of the type that it was declared with has no metric, so that any other of that type may stand
    in its place. One of another type is no reading of its own type either: it has a metric that says so, and this is the
    same for all of them. -/

namespace Telemetry
variable {σ : Type}

/-! ### Lists with another element -/

theorem zipWith_set {α β γ : Type} (f : α → β → γ) {as : List α} {a : α} {i : Nat} (ha : as[i]? = some a) (bs : List β)
    (b : β) : List.zipWith f as (bs.set i b) = (List.zipWith f as bs).set i (f a b) := by
  induction as generalizing i bs with
  | nil => cases ha
  | cons x as ih =>
    cases bs with
    | nil => rfl
    | cons y bs =>
      cases i with
      | zero =>
        obtain rfl : x = a := Option.some.inj ha
        rfl
      | succ i =>
        have htail : as[i]? = some a := ha
        rw [List.set_cons_succ, List.zipWith_cons_cons, ih htail, List.zipWith_cons_cons, List.set_cons_succ]

theorem set_eq_self_iff {α : Type} {as : List α} {a b : α} {i : Nat} (ha : as[i]? = some a) :
    as.set i b = as ↔ b = a := by
  obtain ⟨hlt, rfl⟩ := List.getElem?_eq_some_iff.mp ha
  constructor
  · intro h
    have hget := congrArg (fun l => l[i]?) h
    simpa [hlt] using hget
  · rintro rfl
    exact List.set_getElem_self hlt

/-! ### Values with a text -/

/-- The type of the readings that values of this kind are; bytes are read as no type. -/
def RawValue.family? : RawValue → Option FieldType
  | int64 _ => some .int64
  | double _ => some .double
  | string _ => some .string
  | blob _ => none

/-- A sentinel is left out only among the readings of its own type. -/
theorem FieldValue.sample_of_isSentinel {v : FieldValue} (h : v.value.isSentinel? = some true) :
    v.sample = if v.value.family? = some v.type then none else some conversionFailure := by
  obtain ⟨e, f, type, value⟩ := v
  cases value with
  | blob => cases h
  | int64 n =>
    have hn : Sentinel.isInt n = true := Option.some.inj h
    cases type <;> simp [sample, RawValue.family?, hn]
  | double x =>
    have hx : Sentinel.isDouble x = true := Option.some.inj h
    cases type <;> simp [sample, RawValue.family?, hx]
  | string s =>
    have hs : Sentinel.isString s = true := Option.some.inj h
    cases type <;> simp [sample, RawValue.family?, hs]

/-! ### Answers with another value -/

namespace DeviceManager
variable {m : DeviceManager σ} {fields : List FieldId} {es : List Entity} {vss : List (List FieldValue)} {s u : σ}

/-- The manager with its calls on record, where answer number `n` to a reading is changed by `edit n`. -/
def edited (m : DeviceManager σ) (edit : Nat → List FieldValue → List FieldValue) : DeviceManager (Logged σ) :=
  { m.logged with
    latestValues := fun es fs s =>
      match m.logged.latestValues es fs s with
      | (.ok vs, t) => (.ok (edit s.calls.length vs), t)
      | (.error e, t) => (.error e, t) }

/-- What is read of the manager with changes is what is read without them, changed. -/
theorem ReadAll.edited (h : ReadAll m fields es s vss u) {edit : Nat → List FieldValue → List FieldValue}
    (hedit : ∀ n vs, (edit n vs).length = vs.length) (calls : List ManagerCall) :
    ReadAll (m.edited edit) fields es { state := s, calls } (vss.mapIdx fun k vs => edit (calls.length + k) vs)
      { state := u, calls := calls ++ es.map fun e => .latestValues [e] fields } := by
  induction h generalizing calls with
  | nil s =>
    rw [List.mapIdx_nil, List.map_nil, List.append_nil]
    exact .nil _
  | @cons e es vs vss s t u hreading hcount _ ih =>
    have hcall : (m.edited edit).latestValues [e] fields { state := s, calls } =
        (.ok (edit calls.length vs), { state := t, calls := calls ++ [.latestValues [e] fields] }) := by
      simp only [DeviceManager.edited, logged, Logged.call, hreading]
      rfl
    have hrest := ih (calls ++ [.latestValues [e] fields])
    rw [List.length_append, List.length_singleton, List.append_assoc] at hrest
    simp only [Nat.add_assoc, Nat.add_comm 1] at hrest
    rw [List.mapIdx_cons]
    exact .cons hcall ((hedit _ _).trans hcount) hrest

/-- In answer number `i`, the value at place `j` is another one. -/
def replacing (i j : Nat) (w : RawValue) (n : Nat) (vs : List FieldValue) : List FieldValue :=
  if n = i then vs.modify j fun v => { v with value := w } else vs

theorem length_replacing (i j : Nat) (w : RawValue) (n : Nat) (vs : List FieldValue) :
    (replacing i j w n vs).length = vs.length := by
  rw [replacing]
  split
  · exact List.length_modify ..
  · rfl

theorem mapIdx_replacing {i j : Nat} {vs : List FieldValue} {v : FieldValue} (hvs : vss[i]? = some vs)
    (hv : vs[j]? = some v) (w : RawValue) :
    vss.mapIdx (replacing i j w) = vss.set i (vs.set j { v with value := w }) := by
  have hmodify : vs.modify j (fun v => { v with value := w }) = vs.set j { v with value := w } := by
    rw [List.modify_eq_set, hv]
    rfl
  refine List.ext_getElem? fun k => ?_
  rw [List.getElem?_mapIdx, List.getElem?_set]
  by_cases hk : i = k
  · obtain ⟨hlt, -⟩ := List.getElem?_eq_some_iff.mp hvs
    rw [← hk, hvs, if_pos rfl, if_pos hlt, Option.map_some, replacing, if_pos rfl, hmodify]
  · rw [if_neg hk]
    cases vss[k]? with
    | none => rfl
    | some vs' => rw [Option.map_some, replacing, if_neg (Ne.symm hk)]

end DeviceManager

/-! ### Rows with another metric -/

namespace Collector
open DeviceManager (ReadAll)
open Exposition (room)

section Rows
variable {options : CollectorOptions} {counters : List Counter} {k : Counter} {e : MonitoredEntity}
  {vs : List FieldValue} {v : FieldValue} {j : Nat}

/-- The metrics of the values other than the one at a place, and `own` in the place of its metric. -/
def rowAround (options : CollectorOptions) (counters : List Counter) (e : MonitoredEntity) (vs : List FieldValue)
    (j : Nat) (own : List Metric) : List Metric :=
  metricsOf options (counters.take j) e (vs.take j) ++ own ++
    metricsOf options (counters.drop (j + 1)) e (vs.drop (j + 1))

theorem rowAround_inj {own own' : List Metric} :
    rowAround options counters e vs j own = rowAround options counters e vs j own' ↔ own = own' := by
  rw [rowAround, rowAround, List.append_left_inj, List.append_right_inj]

theorem room_rowAround (own : List Metric) :
    room (rowAround options counters e vs j own) =
      room (metricsOf options (counters.take j) e (vs.take j)) + room own +
        room (metricsOf options (counters.drop (j + 1)) e (vs.drop (j + 1))) := by
  rw [rowAround, Exposition.room_append, Exposition.room_append]

theorem metricsOf_set (hk : counters[j]? = some k) (hj : j < vs.length) (v : FieldValue) :
    metricsOf options counters e (vs.set j v) =
      rowAround options counters e vs j (metric? options e k v).toList := by
  obtain ⟨hlt, rfl⟩ := List.getElem?_eq_some_iff.mp hk
  have hcounters : counters = counters.take j ++ counters[j] :: counters.drop (j + 1) := by
    rw [List.getElem_cons_drop, List.take_append_drop]
  have hlength : (counters.take j).length = (vs.take j).length := by
    rw [List.length_take, List.length_take, Nat.min_eq_left (Nat.le_of_lt hlt), Nat.min_eq_left (Nat.le_of_lt hj)]
  rw [metricsOf, List.set_eq_take_append_cons_drop, if_pos hj]
  nth_rewrite 1 [hcounters]
  rw [List.zip_append hlength, List.zip_cons_cons, List.filterMap_append, List.filterMap_cons]
  cases hmetric : metric? options e counters[j] v <;> simp [rowAround, metricsOf, hmetric]

/-- What stands for a sentinel: nothing, if it is one of the declared type, and else the metric of a failure. -/
def shownAs (type : FieldType) (failed : Metric) (w : RawValue) : List Metric :=
  if w.family? = some type then [] else [failed]

theorem shownAs_inj {type : FieldType} {failed : Metric} {w w' : RawValue} :
    shownAs type failed w = shownAs type failed w' ↔ (w.family? = some type ↔ w'.family? = some type) := by
  rw [shownAs, shownAs]
  split <;> split <;> simp [*]

/-- A metric takes room in a text. -/
theorem shownAs_eq_of_room_eq {type : FieldType} {failed : Metric} {w w' : RawValue}
    (h : room (shownAs type failed w) = room (shownAs type failed w')) :
    shownAs type failed w = shownAs type failed w' := by
  have hone : room [failed] = (Exposition.sampleLine failed).length + 1 := by simp [room, Nat.add_comm]
  have hnone : room [] = 0 := rfl
  by_cases hw : w.family? = some type <;> by_cases hw' : w'.family? = some type <;>
    simp [shownAs, hw, hw', hone, hnone] at h ⊢

/-- All sentinels of other types have one metric, that of a value which cannot be shown. -/
theorem exists_failed (options : CollectorOptions) (e : MonitoredEntity) (k : Counter) :
    ∃ failed : Metric, failed.counter = k ∧ failed.value = conversionFailure ∧
      ∀ v : FieldValue, v.value.isSentinel? = some true →
        (metric? options e k v).toList = shownAs v.type failed v.value := by
  obtain ⟨failed, hfailed⟩ : ∃ a, metric? options e k
      { entity := e.entity, field := k.field, type := .binary, value := .blob [] } = some a := ⟨_, rfl⟩
  have hshows := shows_of_metric? hfailed
  refine ⟨failed, hshows.counter, (Option.some.inj hshows.value).symm, fun v hv => ?_⟩
  rw [metric?, FieldValue.sample_of_isSentinel hv, shownAs]
  split
  · rfl
  · exact congrArg Option.toList hfailed

/-- With one sentinel in the place of another the row is the same exactly if both are of the declared type or neither
    is; and so is the text, as a metric more makes it longer. -/
theorem set_rowAround_iff {metrics : MetricSet} {i : Nat} {type : FieldType} {failed : Metric} {w w' : RawValue}
    (hrow : metrics[i]? = some (rowAround options counters e vs j (shownAs type failed w))) :
    metrics.set i (rowAround options counters e vs j (shownAs type failed w')) = metrics ↔
      (w.family? = some type ↔ w'.family? = some type) := by
  rw [set_eq_self_iff hrow, rowAround_inj, shownAs_inj]
  exact iff_comm

theorem render_set_rowAround_iff {metrics : MetricSet} {i : Nat} {type : FieldType} {failed : Metric} {w w' : RawValue}
    {catalog : List Counter} (hrow : metrics[i]? = some (rowAround options counters e vs j (shownAs type failed w)))
    (h : ∀ a ∈ metrics.flatten, a.counter ∈ catalog)
    (h' : ∀ a ∈ (metrics.set i (rowAround options counters e vs j (shownAs type failed w'))).flatten,
      a.counter ∈ catalog) :
    Exposition.render catalog (metrics.set i (rowAround options counters e vs j (shownAs type failed w'))) =
        Exposition.render catalog metrics ↔
      (w.family? = some type ↔ w'.family? = some type) := by
  rw [← set_rowAround_iff hrow]
  refine ⟨fun htext => ?_, fun hmetrics => congrArg _ hmetrics⟩
  have hi := (List.getElem?_eq_some_iff.mp hrow).1
  have hself := (set_eq_self_iff hrow).mpr rfl
  have hlength := congrArg (fun text => text.toList.length) htext
  simp only [Exposition.length_render h, Exposition.length_render h'] at hlength
  have hroom : room (shownAs type failed w') = room (shownAs type failed w) := by
    rw [← hself, List.set_set, Exposition.room_set hi, Exposition.room_set hi, room_rowAround, room_rowAround] at hlength
    omega
  rw [shownAs_eq_of_room_eq hroom, hself]

end Rows

section Pass
open DeviceManager (replacing)
variable {m : DeviceManager σ} {c : Collector} {s u : σ} {metrics : MetricSet}

/-- A pass gives the metrics of what it reads. -/
theorem collect_of_readAll {vss : List (List FieldValue)}
    (h : ReadAll m (fieldsOf c.counters) (c.entities.map MonitoredEntity.entity) s vss u) :
    c.collect m s = (.ok (List.zipWith (metricsOf c.options c.counters) c.entities vss), u) := by
  have hlogged := (collect_eq_ok_iff (s := { state := s })
    (u := { state := u, calls := c.entities.map c.asking })).mpr ⟨vss, h, rfl, rfl⟩
  obtain ⟨v, hrun, hsince⟩ := Logged.quiet_collect m c s { state := s } rfl
  obtain ⟨hmetrics, rfl⟩ := Prod.mk.inj (hlogged.symm.trans hrun)
  exact Prod.ext hmetrics.symm hsince.state.symm

theorem counter_mem_of_collect (h : c.collect m s = (.ok metrics, u)) : ∀ a ∈ metrics.flatten, a.counter ∈ c.counters := by
  intro a ha
  obtain ⟨e, -, counter, hcounter, v, hshows⟩ := exists_shows_of_mem_flatten h ha
  rw [hshows.counter]
  exact hcounter

/-- A sentinel of a pass has no metric if it is of its declared type and exactly one otherwise, that of a failure, between
    the metrics of the other values of its entity. With another sentinel `w` in its place the pass succeeds, and its metrics
    and its text are the same exactly if both are of that type or neither is. -/
theorem sentinels_of_declared_type (hpass : c.collect m s = (.ok metrics, u)) :
    ∃ vss, ReadAll m (fieldsOf c.counters) (c.entities.map MonitoredEntity.entity) s vss u ∧
      ∀ (i j : Nat) (e : MonitoredEntity) (vs : List FieldValue) (v : FieldValue),
        c.entities[i]? = some e → vss[i]? = some vs → vs[j]? = some v → v.value.isSentinel? = some true →
        ∃ failed : Metric, c.counters[j]? = some failed.counter ∧ failed.value = conversionFailure ∧
          metrics[i]? = some (rowAround c.options c.counters e vs j (shownAs v.type failed v.value)) ∧
          ∀ w : RawValue, w.isSentinel? = some true →
            ∃ metrics' u', c.collect (m.edited (replacing i j w)) { state := s } = (.ok metrics', u') ∧ u'.state = u ∧
              metrics' = metrics.set i (rowAround c.options c.counters e vs j (shownAs v.type failed w)) ∧
              (metrics' = metrics ↔ (v.value.family? = some v.type ↔ w.family? = some v.type)) ∧
              (Exposition.render c.counters metrics' = Exposition.render c.counters metrics ↔
                (v.value.family? = some v.type ↔ w.family? = some v.type)) := by
  obtain ⟨vss, hall, rfl⟩ := readAll_of_collect hpass
  refine ⟨vss, hall, fun i j e vs v he hvs hv hsentinel => ?_⟩
  have hcount : vs.length = c.counters.length :=
    (hall.length_of_mem vs (List.mem_of_getElem? hvs)).trans (length_fieldsOf _)
  have hj : j < vs.length := (List.getElem?_eq_some_iff.mp hv).1
  obtain ⟨k, hk⟩ : ∃ k, c.counters[j]? = some k := ⟨_, List.getElem?_eq_getElem (hcount ▸ hj)⟩
  obtain ⟨failed, rfl, hvalue, hshown⟩ := exists_failed c.options e k
  have hrow (x : FieldValue) (hx : x.value.isSentinel? = some true) :
      metricsOf c.options c.counters e (vs.set j x) =
        rowAround c.options c.counters e vs j (shownAs x.type failed x.value) := by
    rw [metricsOf_set hk hj, hshown x hx]
  have hrow' := hrow v hsentinel
  rw [(set_eq_self_iff hv).mpr rfl] at hrow'
  have hmetrics : (List.zipWith (metricsOf c.options c.counters) c.entities vss)[i]? =
      some (rowAround c.options c.counters e vs j (shownAs v.type failed v.value)) := by
    rw [List.getElem?_zipWith, he, hvs, ← hrow']
  refine ⟨failed, hk, hvalue, hmetrics, fun w hw => ?_⟩
  have hedited := collect_of_readAll (hall.edited (DeviceManager.length_replacing i j w) [])
  simp only [List.length_nil, Nat.zero_add] at hedited
  rw [DeviceManager.mapIdx_replacing hvs hv, zipWith_set _ he, hrow { v with value := w } hw] at hedited
  exact ⟨_, _, hedited, rfl, rfl, set_rowAround_iff hmetrics,
    render_set_rowAround_iff hmetrics (counter_mem_of_collect hpass) (counter_mem_of_collect hedited)⟩

/-- A device manager that reads a sentinel of the type that it declares, and one of another type. -/
def twoSentinels : Script where
  values :=
    [.ok [{ type := .int64, value := .int64 (Sentinel.int64 .blank) },
      { type := .int64, value := .double (Sentinel.double .blank) }]]

/-- Another integer in the place of the first changes nothing, and a text does. -/
theorem sentinels_of_declared_type_twoSentinels :
    let m := twoSentinels.manager
    ∃ c metrics, start m anyDevice [temperature, powerState] {} 0 = (.ok c, 0) ∧ c.collect m 0 = (.ok metrics, 1) ∧
      metrics.map (List.map Metric.value) = [[conversionFailure]] ∧
      (∃ u, c.collect (m.edited (replacing 0 0 (.int64 (Sentinel.int32 .notFound)))) { state := 0 } =
        (.ok metrics, u)) ∧
      ∃ metrics' u, c.collect (m.edited (replacing 0 0 (.string (Sentinel.string .blank)))) { state := 0 } =
        (.ok metrics', u) ∧ metrics' ≠ metrics ∧
          Exposition.render c.counters metrics' ≠ Exposition.render c.counters metrics := by
  intro m
  obtain ⟨c, metrics, hstart, hentities, hpass, hvalues⟩ : ∃ c metrics,
      start m anyDevice [temperature, powerState] {} 0 = (.ok c, 0) ∧
        c.entities = [{ entity := Entity.device 0, device := Script.plainDevice 0 }] ∧
        c.collect m 0 = (.ok metrics, 1) ∧ metrics.map (List.map Metric.value) = [[conversionFailure]] :=
    ⟨_, _, rfl, rfl, rfl, rfl⟩
  obtain ⟨vss, hall, hat⟩ := sentinels_of_declared_type hpass
  rw [hentities] at hall hat
  cases hall with
  | cons hreading _ hrest =>
    cases hrest
    cases hreading
    obtain ⟨failed, -, -, -, hreplaced⟩ := hat 0 0 _ _ _ rfl rfl rfl (by decide)
    obtain ⟨metrics₁, u₁, hrun₁, -, -, hsame, -⟩ := hreplaced (.int64 (Sentinel.int32 .notFound)) (by decide)
    obtain ⟨metrics₂, u₂, hrun₂, -, -, hother, htext⟩ := hreplaced (.string (Sentinel.string .blank)) (by decide)
    obtain rfl := hsame.mpr (by decide)
    exact ⟨c, _, hstart, hpass, hvalues, ⟨u₁, hrun₁⟩, metrics₂, u₂, hrun₂, mt hother.mp (by decide),
      mt htext.mp (by decide)⟩

def fanSpeed : Counter := { field := 191, name := "DCGM_FI_DEV_FAN_SPEED", type := .gauge, help := "Fan." }

/-- A device whose fan speed, an integer, is fixed to the text that stands for a lack of support. -/
def unsupportedAsText : Simulation :=
  { devices :=
      [ { uuid := "GPU-a"
          values := SortedMap.ofList
            [("DCGM_FI_DEV_FAN_SPEED", .text (Sentinel.string .notSupported)), ("DCGM_FI_DEV_GPU_TEMP", .int 42)] } ] }

/-- A sentinel of another type than the declared one has a metric, and has none once it is replaced by an integer. -/
theorem sentinel_of_other_type_shown :
    let m := unsupportedAsText.manager
    let s : Simulation.State := { connected := true }
    ∃ c metrics metrics' s₁ s₂ u, start m anyDevice [fanSpeed, temperature] {} s = (.ok c, s₁) ∧
      (m.latestValues [Entity.device 0] [191, 150] s₁).1.map (List.map FieldValue.value) =
        .ok [.string (Sentinel.string .notSupported), .int64 42] ∧
      (RawValue.string (Sentinel.string .notSupported)).isSentinel? = some true ∧
      c.collect m s₁ = (.ok metrics, s₂) ∧ metrics.map (List.map Metric.value) = [[conversionFailure, "42"]] ∧
      (RawValue.int64 (Sentinel.int64 .notSupported)).isSentinel? = some true ∧
      c.collect (m.edited (replacing 0 0 (.int64 (Sentinel.int64 .notSupported)))) { state := s₁ } =
        (.ok metrics', u) ∧ metrics'.map (List.map Metric.value) = [["42"]] ∧
      Exposition.render c.counters metrics' ≠ Exposition.render c.counters metrics := by
  intro m s
  refine ⟨_, _, _, _, _, _, rfl, ?_, ?_, rfl, ?_, ?_, rfl, ?_, ?_⟩ <;> decide +kernel

end Pass
end Collector
end Telemetry
