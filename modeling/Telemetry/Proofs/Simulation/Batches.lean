import Mathlib.Data.List.Forall2
import Mathlib.Data.List.ProdSigma
import Telemetry.Proofs.Catalog.Fields
import Telemetry.Proofs.Simulation.Telling

/-! Batches of readings. A batch fails for the connection, else for its first unknown field, else for its first unknown
    entity. Without a fault it has the readings of its entities one after the other, as each of them alone gives them.
    Time has a say only in readings that nothing fixes, and with the period of the drift. -/

namespace Telemetry
namespace Simulation

variable {sim : Simulation} {s s' : State} {e : Entity} {es : List Entity} {id : FieldId} {ids : List FieldId}
  {f : Field} {fields : List Field} {p : Place} {tick tick' : UInt64} {x : DeviceError} {vs : List FieldValue}

/-! ### What there is -/

/-- There is a field with the number. -/
def KnownField (id : FieldId) : Prop := ∃ f ∈ Field.table, f.id = id

/-- The entity stands somewhere in the description. -/
def Described (sim : Simulation) (e : Entity) : Prop := ∃ l p, Stands sim e l p

theorem isSome_byId?_iff : (Field.byId? id).isSome ↔ KnownField id := by
  simp only [Option.isSome_iff_exists, Field.byId?_eq_some_iff, KnownField]

theorem isSome_placeOf?_iff : (sim.placeOf? e).isSome ↔ sim.Described e := by
  constructor
  · intro h
    rw [placeOf?, Option.isSome_bind] at h
    cases hlocate : sim.locate? e with
    | none =>
      rw [hlocate] at h
      cases h
    | some l => exact ⟨l, stands_of_locate? hlocate⟩
  · rintro ⟨l, p, h⟩
    exact h.isSome_placeOf?

/-! ### Faults -/

/-- Why a batch cannot be read: no one is connected; else this is the first of the fields that there is not; else it is
    the first of the entities that is not described. -/
inductive BatchFault (sim : Simulation) (connected : Bool) (es : List Entity) (ids : List FieldId) : DeviceError → Prop
  | lost (h : connected = false) : BatchFault sim connected es ids (.connectionLost "not connected")
  | field (h : connected = true) {before after : List FieldId} {id : FieldId} (hids : ids = before ++ id :: after)
    (hbefore : ∀ i ∈ before, KnownField i) (hid : ¬ KnownField id) : BatchFault sim connected es ids (.unknownField id)
  | entity (h : connected = true) (hids : ∀ i ∈ ids, KnownField i) {before after : List Entity} {e : Entity}
    (hes : es = before ++ e :: after) (hbefore : ∀ x ∈ before, sim.Described x) (he : ¬ sim.Described e) :
    BatchFault sim connected es ids (.unknownEntity e)

/-- The field with a number. -/
def fieldOf (id : FieldId) : Except DeviceError Field :=
  match Field.byId? id with
  | none => .error (.unknownField id)
  | some f => .ok f

theorem fieldOf_eq_ok_iff : fieldOf id = .ok f ↔ f ∈ Field.table ∧ f.id = id := by
  rw [fieldOf, ← Field.byId?_eq_some_iff]
  cases Field.byId? id <;> simp

theorem fieldOf_eq_error_iff : fieldOf id = .error x ↔ ¬ KnownField id ∧ x = .unknownField id := by
  rw [fieldOf, ← isSome_byId?_iff]
  cases Field.byId? id <;> simp [eq_comm]

theorem findFields_eq_mapM (ids : List FieldId) : findFields ids = ids.mapM fieldOf := by
  induction ids with
  | nil => rfl
  | cons id ids ih =>
    rw [findFields, List.mapM_cons, ← ih, fieldOf]
    cases Field.byId? id with
    | none => rfl
    | some f => cases findFields ids <;> rfl

theorem valuesOf_eq_ok_iff :
    sim.valuesOf e fields tick = .ok vs ↔ sim.Described e ∧ vs = sim.valuesAt fields tick e := by
  rw [valuesOf, ← placeOf?, ← isSome_placeOf?_iff, valuesAt]
  cases sim.placeOf? e <;> simp [eq_comm]

theorem valuesOf_eq_error_iff :
    sim.valuesOf e fields tick = .error x ↔ ¬ sim.Described e ∧ x = .unknownEntity e := by
  rw [valuesOf, ← placeOf?, ← isSome_placeOf?_iff]
  cases sim.placeOf? e <;> simp [eq_comm]

theorem valuesOfAll_eq_mapM (es : List Entity) :
    sim.valuesOfAll fields tick es = (es.mapM fun e => sim.valuesOf e fields tick).map List.flatten := by
  induction es with
  | nil => rfl
  | cons e es ih =>
    rw [valuesOfAll, List.mapM_cons, ih]
    cases sim.valuesOf e fields tick with
    | error x => rfl
    | ok vs => cases es.mapM fun e => sim.valuesOf e fields tick <;> rfl

theorem findFields_eq_ok_iff :
    findFields ids = .ok fields ↔ List.Forall₂ (fun id f => f ∈ Field.table ∧ f.id = id) ids fields := by
  simp only [findFields_eq_mapM, mapM_eq_ok_iff, fieldOf_eq_ok_iff]

theorem exists_fieldOf_iff : (∃ f, fieldOf id = .ok f) ↔ KnownField id := by
  simp only [fieldOf_eq_ok_iff, KnownField]

theorem exists_findFields_iff : (∃ fields, findFields ids = .ok fields) ↔ ∀ i ∈ ids, KnownField i := by
  simp only [findFields_eq_mapM, exists_mapM_iff, exists_fieldOf_iff]

theorem findFields_eq_error_iff :
    findFields ids = .error x ↔ ∃ before id after, ids = before ++ id :: after ∧ (∀ i ∈ before, KnownField i) ∧
      ¬ KnownField id ∧ x = .unknownField id := by
  simp only [findFields_eq_mapM, mapM_eq_error_iff, exists_fieldOf_iff, fieldOf_eq_error_iff]

theorem exists_valuesOf_iff : (∃ vs, sim.valuesOf e fields tick = .ok vs) ↔ sim.Described e := by
  simp only [valuesOf_eq_ok_iff, exists_and_left, exists_eq, and_true]

theorem valuesOfAll_eq_error_iff :
    sim.valuesOfAll fields tick es = .error x ↔ ∃ before e after, es = before ++ e :: after ∧
      (∀ e ∈ before, sim.Described e) ∧ ¬ sim.Described e ∧ x = .unknownEntity e := by
  simp only [valuesOfAll_eq_mapM, map_eq_error_iff, mapM_eq_error_iff, exists_valuesOf_iff, valuesOf_eq_error_iff]

theorem valuesOfAll_eq_ok_iff :
    sim.valuesOfAll fields tick es = .ok vs ↔
      (∀ e ∈ es, sim.Described e) ∧ vs = es.flatMap (sim.valuesAt fields tick) := by
  constructor
  · intro h
    have hes : ∀ e ∈ es, sim.Described e := by
      rw [valuesOfAll_eq_mapM] at h
      obtain ⟨vss, hvss, -⟩ := map_eq_ok_iff.mp h
      exact fun e he => exists_valuesOf_iff.mp (exists_mapM_iff.mp ⟨vss, hvss⟩ e he)
    rw [valuesOfAll_of_placed fun e he => isSome_placeOf?_iff.mpr (hes e he)] at h
    exact ⟨hes, (Except.ok.inj h).symm⟩
  · rintro ⟨hes, rfl⟩
    exact valuesOfAll_of_placed (fun e he => isSome_placeOf?_iff.mpr (hes e he)) tick

/-- All fields are looked up before the first entity is. -/
theorem reading_eq_error_iff : sim.reading es ids tick = .error x ↔ BatchFault sim true es ids x := by
  rw [reading, bind_eq_error_iff]
  constructor
  · rintro (h | ⟨fields, hfields, h⟩)
    · obtain ⟨before, id, after, hids, hbefore, hid, rfl⟩ := findFields_eq_error_iff.mp h
      exact .field rfl hids hbefore hid
    · obtain ⟨before, e, after, hes, hbefore, he, rfl⟩ := valuesOfAll_eq_error_iff.mp h
      exact .entity rfl (exists_findFields_iff.mp ⟨fields, hfields⟩) hes hbefore he
  · intro h
    cases h with
    | lost h => cases h
    | field _ hids hbefore hid => exact .inl (findFields_eq_error_iff.mpr ⟨_, _, _, hids, hbefore, hid, rfl⟩)
    | entity _ hids hes hbefore he =>
      obtain ⟨fields, hfields⟩ := exists_findFields_iff.mpr hids
      exact .inr ⟨fields, hfields, valuesOfAll_eq_error_iff.mpr ⟨_, _, _, hes, hbefore, he, rfl⟩⟩

theorem latestValues_fst (sim : Simulation) (es : List Entity) (ids : List FieldId) (s : State) :
    (sim.latestValues es ids s).1 =
      if s.connected then sim.reading es ids s.reads else .error (.connectionLost "not connected") := by
  rw [latestValues, whenConnected]
  split <;> rfl

theorem latestValues_eq_error_iff :
    (sim.latestValues es ids s).1 = .error x ↔ BatchFault sim s.connected es ids x := by
  rw [latestValues_fst]
  cases s.connected with
  | true => exact reading_eq_error_iff
  | false =>
    constructor
    · rintro ⟨⟩
      exact .lost rfl
    · intro h
      cases h with
      | lost => rfl
      | field h => cases h
      | entity h => cases h

theorem latestValues_eq_ok_iff :
    (sim.latestValues es ids s).1 = .ok vs ↔ s.connected = true ∧ ∃ fields, findFields ids = .ok fields ∧
      (∀ e ∈ es, sim.Described e) ∧ vs = es.flatMap (sim.valuesAt fields s.reads) := by
  rw [latestValues_fst]
  cases s.connected with
  | true =>
    rw [if_pos rfl, reading, bind_eq_ok_iff]
    simp only [valuesOfAll_eq_ok_iff, true_and]
  | false => exact iff_of_false (by simp) (by simp)

/-! ### Values -/

/-- The readings of an entity that time has no say in: the name, the identity and the driver of every device, and of
    other fields what the description of the device fixes or what it does not support. -/
inductive Steady (sim : Simulation) (e : Entity) (f : Field) : Prop
  | told (h : f.id ∈ [Field.deviceName, Field.deviceUuid, Field.driverVersion])
  | unsupported {p : Place} (hp : sim.placeOf? e = some p)
    (h : p.device.supported = false ∨ f.name ∈ p.device.notSupported)
  | fixed {p : Place} {v : FixedReading} (hp : sim.placeOf? e = some p) (h : p.device.values.get? f.name = some v)

theorem driftingValue_congr (h : tick.toNat % 5 = tick'.toNat % 5) :
    driftingValue e f tick = driftingValue e f tick' := by
  simp only [driftingValue, h]

/-- Drifts have a period of five. -/
theorem valueAt_congr (h : tick.toNat % 5 = tick'.toNat % 5) : valueAt p e f tick = valueAt p e f tick' := by
  simp only [valueAt, driftingValue_congr h]

/-- The drift comes behind all else that a value can be. -/
theorem Steady.valueAt_eq (h : sim.Steady e f) (tick tick' : UInt64) :
    valueAt ((sim.placeOf? e).getD default) e f tick = valueAt ((sim.placeOf? e).getD default) e f tick' := by
  cases h with
  | told h =>
    have hid : f.id = Field.deviceName ∨ f.id = Field.deviceUuid ∨ f.id = Field.driverVersion := by simpa using h
    rcases hid with hid | hid | hid <;> simp only [valueAt, if_pos hid]
  | @unsupported p hp h =>
    have hlacks : (!p.device.supported || p.device.notSupported.contains f.name) = true := by simpa using h
    simp only [valueAt, hp, Option.getD_some, hlacks, if_true]
  | fixed hp h => simp only [valueAt, hp, Option.getD_some, h]

/-- A value is tagged with the entity and the field that it is read for. -/
def Tagged (y : Entity × Field) (v : FieldValue) : Prop := v.entity = y.1 ∧ v.field = y.2.id ∧ v.type = y.2.type

theorem latestValues_congr (hconnected : s'.connected = s.connected)
    (hreads : s.reads.toNat % 5 = s'.reads.toNat % 5) :
    (sim.latestValues es ids s').1 = (sim.latestValues es ids s).1 := by
  have hvalues (fields : List Field) (e : Entity) :
      sim.valuesOf e fields s.reads = sim.valuesOf e fields s'.reads := by
    simp only [valuesOf, valueAt_congr hreads]
  simp only [latestValues_fst, hconnected, reading, valuesOfAll_eq_mapM, hvalues]

/-- The value that is read of an entity and a field. -/
def taggedValue (sim : Simulation) (tick : UInt64) (y : Entity × Field) : FieldValue :=
  { entity := y.1, field := y.2.id, type := y.2.type, value := valueAt ((sim.placeOf? y.1).getD default) y.1 y.2 tick }

theorem flatMap_valuesAt (sim : Simulation) (fields : List Field) (tick : UInt64) (es : List Entity) :
    es.flatMap (sim.valuesAt fields tick) = (es.product fields).map (sim.taggedValue tick) := by
  rw [List.product, List.map_flatMap]
  simp only [List.map_map]
  rfl

/-- A batch of readings: it has one value for each entity and field, entity by entity, as each entity alone gives them
    at the same time; and at no other time is a steady reading another one. -/
structure Batch (sim : Simulation) (es : List Entity) (ids : List FieldId) (s : State) (fields : List Field)
    (single : Entity → List FieldValue) (vs : List FieldValue) : Prop where
  read : (sim.latestValues es ids s).1 = .ok vs
  known : List.Forall₂ (fun id f => f ∈ Field.table ∧ f.id = id) ids fields
  tags : List.Forall₂ Tagged (es.product fields) vs
  alone : ∀ e ∈ es, ∀ s' : State, s'.connected = true → s'.reads = s.reads →
    (sim.latestValues [e] ids s').1 = .ok (single e)
  concat : vs = es.flatMap single
  steady : ∀ s' : State, s'.connected = true → ∃ vs', (sim.latestValues es ids s').1 = .ok vs' ∧
    ∀ (n : Nat) (y : Entity × Field), (es.product fields)[n]? = some y → sim.Steady y.1 y.2 → vs'[n]? = vs[n]?

theorem exists_batch (h : ∀ x, ¬ BatchFault sim s.connected es ids x) :
    ∃ fields single vs, Batch sim es ids s fields single vs := by
  cases hread : (sim.latestValues es ids s).1 with
  | error x => exact absurd (latestValues_eq_error_iff.mp hread) (h x)
  | ok vs =>
    obtain ⟨hconnected, fields, hfields, hes, hvs⟩ := latestValues_eq_ok_iff.mp hread
    have hmap := flatMap_valuesAt sim fields s.reads es
    refine ⟨fields, sim.valuesAt fields s.reads, vs, hread, findFields_eq_ok_iff.mp hfields, ?tags, ?alone, hvs, ?steady⟩
    case tags =>
      rw [hvs, hmap, List.forall₂_map_right_iff, List.forall₂_same]
      exact fun y _ => ⟨rfl, rfl, rfl⟩
    case alone =>
      intro e he s' hconnected' hreads
      refine latestValues_eq_ok_iff.mpr ⟨hconnected', fields, hfields, List.forall_mem_singleton.mpr (hes e he), ?_⟩
      rw [List.flatMap_singleton, hreads]
    case steady =>
      intro s' hconnected'
      refine ⟨_, latestValues_eq_ok_iff.mpr ⟨hconnected', fields, hfields, hes, rfl⟩, fun n y hy hsteady => ?_⟩
      rw [hvs, hmap, flatMap_valuesAt, List.getElem?_map, List.getElem?_map, hy, Option.map_some, Option.map_some,
        taggedValue, taggedValue, hsteady.valueAt_eq]

/-- A batch fails with its fault if it has one. Otherwise it is read, entity by entity; and five readings later it ends
    in the same way. -/
theorem latestValues_batch (sim : Simulation) (es : List Entity) (ids : List FieldId) (s : State) :
    (∀ x, (sim.latestValues es ids s).1 = .error x ↔ BatchFault sim s.connected es ids x) ∧
    ((∀ x, ¬ BatchFault sim s.connected es ids x) → ∃ fields single vs, Batch sim es ids s fields single vs) ∧
    ∀ s' : State, s'.connected = s.connected → s'.reads.toNat = s.reads.toNat + 5 →
      (sim.latestValues es ids s').1 = (sim.latestValues es ids s).1 :=
  ⟨fun _ => latestValues_eq_error_iff, exists_batch, fun _ hconnected hreads =>
    latestValues_congr hconnected (by omega)⟩

/-- A partition and a device that cannot be queried, and fields of which one comes twice. -/
theorem latestValues_batch_repeated :
    let es := [Entity.partition 5, Entity.device 1]
    let ids : List FieldId := [150, 50, 150]
    let s : State := { connected := true, reads := 3 }
    (∀ x, ¬ BatchFault partlyUnavailable s.connected es ids x) ∧
      (∃ fields single vs, Batch partlyUnavailable es ids s fields single vs) ∧
      (partlyUnavailable.latestValues es ids { s with reads := 8 }).1 = (partlyUnavailable.latestValues es ids s).1 := by
  intro es ids s
  obtain ⟨hfault, hbatch, hperiod⟩ := latestValues_batch partlyUnavailable es ids s
  obtain ⟨vs, hvs⟩ : ∃ vs, (partlyUnavailable.latestValues es ids s).1 = .ok vs := ⟨_, rfl⟩
  have hfaultless : ∀ x, ¬ BatchFault partlyUnavailable s.connected es ids x :=
    fun x hx => nomatch hvs.symm.trans ((hfault x).mpr hx)
  exact ⟨hfaultless, hbatch hfaultless, hperiod { s with reads := 8 } rfl rfl⟩

end Simulation
end Telemetry
