import Telemetry.Proofs.SortedMap
import Telemetry.Simulation.Json

/-! Descriptions written as JSON values and read back. A field that was left out because it has no entry is read as
    absent and so has none; an integer, a double and a text are told apart by the kind of their value. Only a double
    that is not finite is lost, as JSON has no value for it. -/

namespace Telemetry

/-- No double, or a finite one. -/
def FixedReading.isFinite : FixedReading → Bool
  | double x => x.isFinite
  | _ => true

/-- Whether all readings that the device fixes are finite. -/
def SimulatedDevice.isFinite (d : SimulatedDevice) : Bool := d.values.toList.all fun e => e.2.isFinite

namespace Simulation
open SortedMap (lookup)

variable {ν α : Type} {sound : α → Bool} {xs : List α} {name k : String} {v : Json} {fs ms : List (String × Json)}

/-! ### Values -/

/-- What is written of a value is read as this value if it is sound, and else cannot be read. -/
def Recovers (read : ν → Option α) (write : α → ν) (sound : α → Bool) : Prop :=
  ∀ a, read (write a) = Option.guard sound a

theorem Recovers.mapM {read : ν → Option α} {write : α → ν} (h : Recovers read write sound) (xs : List α) :
    (xs.map write).mapM read = Option.guard (fun xs => xs.all sound) xs := by
  induction xs with
  | nil => rfl
  | cons x xs ih =>
    rw [List.map_cons, List.mapM_cons, h, ih]
    cases hx : sound x <;> cases hxs : xs.all sound <;> simp [Option.guard, hx, hxs]

/-- A format reads each kind of value as what it was written of; of an object the members are read whose names are
    fields, each of them once. -/
structure ReadsWritten (F : DocumentFormat Json) : Prop where
  text : ∀ s, F.text? (.string s) = some s
  optionalText : ∀ o, F.optionalText? (optionalTextJson o) = some o
  flag : ∀ b, F.flag? (.bool b) = some b
  word : ∀ n, F.word? (wordJson n) = some n
  reading : Recovers F.reading? readingJson FixedReading.isFinite
  list : ∀ xs, F.list? (.array xs) = some xs
  entries : ∀ ms, (ms.map Prod.fst).Nodup → F.entries? (.object ms) = some ms
  fields : ∀ names ms, names.Nodup → (ms.map Prod.fst).Sublist names → F.fields? names (.object ms) = some ms

theorem ReadsWritten.recovers_text {F : DocumentFormat Json} (hF : ReadsWritten F) :
    Recovers F.text? Json.string fun _ => true := fun s => (hF.text s).trans rfl

theorem jsonWord?_wordJson (n : UInt32) : jsonWord? (wordJson n) = some n := by
  have hrange : (0 : Int) ≤ n.toNat ∧ (n.toNat : Int) < UInt32.size :=
    ⟨Int.natCast_nonneg _, Int.ofNat_lt.mpr n.toNat_lt_size⟩
  simp only [wordJson, jsonWord?, if_pos hrange, Int.toNat_natCast, UInt32.ofNat_toNat]

theorem fitsInt64_toInt (n : Int64) : Numeral.fitsInt64 n.toInt = true := by
  rw [Numeral.fitsInt64, Bool.and_eq_true, decide_eq_true_eq, decide_eq_true_eq]
  exact ⟨n.le_toInt, n.toInt_lt⟩

/-- The kind of a reading is the kind of its value: whole doubles stay doubles, and texts texts. -/
theorem recovers_jsonReading : Recovers jsonReading? readingJson FixedReading.isFinite := by
  intro v
  cases v with
  | int n => simp [readingJson, jsonReading?, fitsInt64_toInt, Option.guard, FixedReading.isFinite]
  | double x => cases h : x.isFinite <;> simp [readingJson, jsonReading?, h, Option.guard, FixedReading.isFinite]
  | text s => rfl

theorem visible_of_nodup (h : (ms.map Prod.fst).Nodup) : visible ms = ms := by
  induction ms with
  | nil => rfl
  | cons m ms ih =>
    obtain ⟨hnot, hms⟩ := List.nodup_cons.mp h
    have hany : (ms.any fun n => n.1 == m.1) = false := by
      refine List.any_eq_false.mpr fun n hn heq => hnot ?_
      rw [← eq_of_beq heq]
      exact List.mem_map_of_mem hn
    rw [visible, hany, ih hms]
    rfl

theorem readsWritten_jsonFormat : ReadsWritten jsonFormat where
  text _ := rfl
  optionalText o := by cases o <;> rfl
  flag _ := rfl
  word n := by simp only [jsonFormat, jsonWord?_wordJson]
  reading := recovers_jsonReading
  list _ := rfl
  entries ms h := congrArg some (visible_of_nodup h)
  fields names ms hnames h := by
    have hall : (ms.filter fun m => names.contains m.1) = ms :=
      List.filter_eq_self.mpr fun m hm => List.contains_iff_mem.mpr (h.subset (List.mem_map_of_mem hm))
    show some ((visible ms).filter fun m => names.contains m.1) = some ms
    rw [visible_of_nodup (hnames.sublist h), hall]

/-! ### Fields -/

section Fields
variable {F : DocumentFormat Json} {read : Json → Option α} {write : α → Json} {absent : α}

theorem required_cons : required read k ((name, v) :: fs) = if name = k then read v else required read k fs := by
  rw [required, lookup]
  split <;> rfl

theorem optional_cons :
    optional read absent k ((name, v) :: fs) = if name = k then read v else optional read absent k fs := by
  by_cases h : name = k <;> simp [optional, lookup, h]

theorem lookup_listField : lookup name (listField name write xs) =
    if xs.isEmpty then none else some (.array (xs.map write)) := by
  cases xs <;> simp [listField, lookup]

theorem lookup_listField_of_ne (h : name ≠ k) : lookup k (listField name write xs) = none := by
  cases xs <;> simp [listField, lookup, h]

theorem lookup_valuesField_of_ne {m : SortedMap FixedReading} (h : "values" ≠ k) : lookup k (valuesField m) = none := by
  rw [valuesField]
  split
  · rfl
  · simp [lookup, h]

theorem Recovers.list (h : Recovers read write sound) (hF : ReadsWritten F) :
    Recovers (readList F read) (fun xs => .array (xs.map write)) fun xs => xs.all sound := by
  intro xs
  rw [readList, hF.list, Option.bind_eq_bind, Option.bind_some, h.mapM]

/-- A list that is left out is empty. -/
theorem Recovers.optional_listField (h : Recovers read write sound) (hF : ReadsWritten F)
    (hfs : lookup name fs = lookup name (listField name write xs)) :
    optional (readList F read) [] name fs = Option.guard (fun xs => xs.all sound) xs := by
  rw [optional, hfs, lookup_listField]
  cases xs with
  | nil => rfl
  | cons x xs => exact h.list hF (x :: xs)

theorem recovers_readings (hF : ReadsWritten F) :
    Recovers (readReadings F) (fun m => .object (m.toList.map fun e => (e.1, readingJson e.2)))
      fun m => m.toList.all fun e => e.2.isFinite := by
  intro m
  have hkeys : ((m.toList.map fun e => (e.1, readingJson e.2)).map Prod.fst).Nodup := by
    rw [List.map_map]
    exact m.nodup_keys
  have hentry : Recovers (fun (name, v) => (F.reading? v).map (name, ·))
      (fun e : String × FixedReading => (e.1, readingJson e.2)) fun e => e.2.isFinite := by
    intro e
    dsimp only
    rw [hF.reading e.2]
    cases h : e.2.isFinite <;> simp [Option.guard, h]
  have hmap : SortedMap.ofList m.toList = m := m.ofList_entries
  rw [readReadings, hF.entries _ hkeys, Option.bind_eq_bind, Option.bind_some, hentry.mapM]
  cases h : m.toList.all fun e => e.2.isFinite <;> simp [Option.guard, h, hmap]

/-- Readings that are left out are none. -/
theorem optional_valuesField {m : SortedMap FixedReading} (hF : ReadsWritten F)
    (hfs : lookup "values" fs = lookup "values" (valuesField m)) :
    optional (readReadings F) SortedMap.empty "values" fs =
      Option.guard (fun m => m.toList.all fun e => e.2.isFinite) m := by
  rw [optional, hfs, valuesField]
  cases hempty : m.isEmpty with
  | true =>
    have hnone : m = SortedMap.empty := SortedMap.ext (List.isEmpty_iff.mp hempty)
    rw [if_pos rfl, hnone]
    rfl
  | false =>
    rw [if_neg Bool.false_ne_true, lookup, if_pos rfl]
    exact recovers_readings hF m

end Fields

/-! ### Records -/

section Records
variable {F : DocumentFormat Json}

theorem recovers_subPartition (hF : ReadsWritten F) :
    Recovers (readSubPartition F) (fun x => .object (subPartitionMembers x)) fun _ => true := by
  intro x
  have hfields : F.fields? subPartitionFields (.object (subPartitionMembers x)) = some (subPartitionMembers x) :=
    hF.fields _ _ (by decide) (.refl _)
  rw [readSubPartition, hfields]
  simp only [subPartitionMembers, required_cons, optional_cons, String.reduceEq, reduceIte, hF.word, hF.optionalText,
    Option.bind_eq_bind, Option.bind_some]
  rfl

theorem names_partitionMembers (x : SimulatedPartition) :
    (partitionMembers x).map Prod.fst =
      partitionFields.filter fun f => !(f = "sub_partitions" && x.subPartitions.isEmpty) := by
  cases h : x.subPartitions <;> simp [partitionMembers, listField, partitionFields, h]

theorem recovers_partition (hF : ReadsWritten F) :
    Recovers (readPartition F) (fun x => .object (partitionMembers x)) fun _ => true := by
  intro x
  have hfields : F.fields? partitionFields (.object (partitionMembers x)) = some (partitionMembers x) :=
    hF.fields _ _ (by decide) (by rw [names_partitionMembers]; exact List.filter_sublist)
  have hsubs : optional (readList F (readSubPartition F)) [] "sub_partitions" (partitionMembers x) =
      Option.guard (fun xs => xs.all fun _ => true) x.subPartitions :=
    (recovers_subPartition hF).optional_listField hF (by simp [partitionMembers, lookup])
  have hall : (x.subPartitions.all fun _ => true) = true := List.all_eq_true.mpr fun _ _ => rfl
  rw [readPartition, hfields]
  simp only [Option.bind_eq_bind, Option.bind_some, hsubs]
  simp only [partitionMembers, List.cons_append, required_cons, optional_cons, String.reduceEq, reduceIte, hF.word,
    hF.optionalText, Option.bind_some, Option.guard, hall]
  rfl

theorem names_deviceMembers (x : SimulatedDevice) :
    (deviceMembers x).map Prod.fst =
      deviceFields.filter fun f => !(f = "partitions" && x.partitions.isEmpty || f = "values" && x.values.isEmpty ||
        f = "not_supported" && x.notSupported.isEmpty) := by
  cases hpartitions : x.partitions <;> cases hvalues : x.values.isEmpty <;> cases hsilent : x.notSupported <;>
    simp [deviceMembers, listField, valuesField, deviceFields, hpartitions, hvalues, hsilent]

theorem recovers_device (hF : ReadsWritten F) :
    Recovers (readDevice F) (fun x => .object (deviceMembers x)) SimulatedDevice.isFinite := by
  intro x
  have hfields : F.fields? deviceFields (.object (deviceMembers x)) = some (deviceMembers x) :=
    hF.fields _ _ (by decide) (by rw [names_deviceMembers]; exact List.filter_sublist)
  have hpartitions : optional (readList F (readPartition F)) [] "partitions" (deviceMembers x) =
      Option.guard (fun xs => xs.all fun _ => true) x.partitions :=
    (recovers_partition hF).optional_listField hF
      (by simp [deviceMembers, lookup, SortedMap.lookup_append, lookup_valuesField_of_ne, lookup_listField_of_ne])
  have hvalues : optional (readReadings F) SortedMap.empty "values" (deviceMembers x) =
      Option.guard (fun m => m.toList.all fun e => e.2.isFinite) x.values :=
    optional_valuesField hF
      (by simp [deviceMembers, lookup, SortedMap.lookup_append, lookup_listField_of_ne])
  have hsilent : optional (readList F F.text?) [] "not_supported" (deviceMembers x) =
      Option.guard (fun xs => xs.all fun _ => true) x.notSupported :=
    hF.recovers_text.optional_listField hF
      (by simp [deviceMembers, lookup, SortedMap.lookup_append, lookup_valuesField_of_ne, lookup_listField_of_ne])
  rw [readDevice, hfields]
  simp only [Option.bind_eq_bind, Option.bind_some, hpartitions, hvalues, hsilent]
  cases h : x.values.toList.all fun e => e.2.isFinite <;>
    simp [deviceMembers, required_cons, optional_cons, Option.guard, hF.text, hF.flag, h, SimulatedDevice.isFinite]

/-- A description is read back as it was written if its readings are finite, and else it is not read. -/
theorem recovers_description (hF : ReadsWritten F) :
    Recovers (read? F) toJson fun sim => sim.devices.all SimulatedDevice.isFinite := by
  intro sim
  have hfields : F.fields? ["devices"] sim.toJson =
      some [("devices", .array (sim.devices.map fun d => .object (deviceMembers d)))] :=
    hF.fields _ _ (by decide) (.refl _)
  have hdevices := (recovers_device hF).list hF sim.devices
  rw [read?, hfields]
  simp only [Option.bind_eq_bind, Option.bind_some, required_cons, if_true, hdevices]
  cases h : sim.devices.all SimulatedDevice.isFinite <;> simp [Option.guard, h]

end Records
theorem isFinite_iff {d : SimulatedDevice} :
    d.isFinite = true ↔ ∀ e ∈ d.values.toList, ∀ x, e.2 = .double x → x.isFinite = true := by
  rw [SimulatedDevice.isFinite, List.all_eq_true]
  refine forall₂_congr fun e _ => ?_
  cases e.2 <;> simp [FixedReading.isFinite]

/-- A description is read back from what was written of it, and as nothing else, exactly if every double that it fixes is
    finite. Of a device and of a partition all fields are written, in their order, but for those that have no entry. -/
theorem ofJson?_toJson (sim : Simulation) :
    (∀ sim', ofJson? sim.toJson = some sim' ↔
      sim' = sim ∧ ∀ d ∈ sim.devices, ∀ e ∈ d.values.toList, ∀ x, e.2 = .double x → x.isFinite = true) ∧
    sim.toJson = .object [("devices", .array (sim.devices.map fun d => .object (deviceMembers d)))] ∧
    (∀ d, (deviceMembers d).map Prod.fst =
      deviceFields.filter fun f => !(f = "partitions" && d.partitions.isEmpty || f = "values" && d.values.isEmpty ||
        f = "not_supported" && d.notSupported.isEmpty)) ∧
    ∀ p, (partitionMembers p).map Prod.fst =
      partitionFields.filter fun f => !(f = "sub_partitions" && p.subPartitions.isEmpty) := by
  refine ⟨fun sim' => ?_, rfl, names_deviceMembers, names_partitionMembers⟩
  rw [ofJson?, recovers_description readsWritten_jsonFormat sim, Option.guard_eq_some_iff, List.all_eq_true]
  simp only [isFinite_iff]
  exact and_congr_left fun _ => eq_comm

/-- Whole doubles, the least integer and texts that look like numbers stay what they are. -/
example :
    let sim : Simulation :=
      { devices :=
          [ { uuid := "GPU-a", supported := false, partitions := [{ id := 5, instanceId := 1 }]
              values := SortedMap.ofList
                [("a", .double (Double.ofInt 42)), ("b", .int Int64.minValue), ("c", .text "42")] } ] }
    ofJson? sim.toJson = some sim := by
  decide +kernel

end Simulation
end Telemetry
