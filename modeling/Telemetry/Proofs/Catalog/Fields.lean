import Mathlib.Data.List.Nodup
import Telemetry.Catalog.Reading
import Telemetry.Proofs.Ending

/-! The fields of counters. Every counter that is read from a catalog has the name of a field, and its number is
    that field's; so there is such a field by number, too. -/

namespace Telemetry

/-- Where keys do not come twice, what is found by its key is what has it. -/
theorem find?_eq_some_iff_of_nodup {α β : Type} [BEq β] [LawfulBEq β] {key : α → β} {l : List α}
    (hnodup : (l.map key).Nodup) {b : β} {a : α} : (l.find? fun x => key x == b) = some a ↔ a ∈ l ∧ key a = b := by
  constructor
  · exact fun h => ⟨List.mem_of_find?_eq_some h, by simpa using List.find?_some h⟩
  · rintro ⟨ha, rfl⟩
    have hsome : (l.find? fun x => key x == key a).isSome := List.find?_isSome.mpr ⟨a, ha, by simp⟩
    obtain ⟨a', ha'⟩ := Option.isSome_iff_exists.mp hsome
    have hkey : key a' = key a := by simpa using List.find?_some ha'
    obtain rfl : a' = a := List.inj_on_of_nodup_map hnodup (List.mem_of_find?_eq_some ha') ha hkey
    exact ha'

namespace Field

theorem byName?_eq_some_iff {name : String} {f : Field} : byName? name = some f ↔ f ∈ table ∧ f.name = name :=
  find?_eq_some_iff_of_nodup nodup_names

theorem byName?_eq_none_iff {name : String} : byName? name = none ↔ ∀ f ∈ table, f.name ≠ name := by
  simp [byName?, List.find?_eq_none]

theorem byId?_eq_some_iff {id : FieldId} {f : Field} : byId? id = some f ↔ f ∈ table ∧ f.id = id :=
  find?_eq_some_iff_of_nodup nodup_ids

theorem byId?_of_byName? {name : String} {f : Field} (h : byName? name = some f) : byId? f.id = some f :=
  byId?_eq_some_iff.mpr ⟨(byName?_eq_some_iff.mp h).1, rfl⟩

end Field

namespace Catalog

/-- The counter is named after a field and has its number. -/
def HasField (c : Counter) : Prop := ∃ f, Field.byName? c.name = some f ∧ c.field = f.id

section HasField
variable {c : Counter} {cs : List Counter}

theorem HasField.isSome_byId? (h : HasField c) : (Field.byId? c.field).isSome := by
  obtain ⟨f, hf, hfield⟩ := h
  rw [hfield, Field.byId?_of_byName? hf]
  rfl

/-- The characters of names lie between these two, so that none of them has a meaning where names are written. -/
theorem HasField.name_chars (h : HasField c) :
    c.name.toList ≠ [] ∧ ∀ ch ∈ c.name.toList, '$'.toNat ≤ ch.toNat ∧ ch.toNat ≤ 'z'.toNat := by
  have hnames : ∀ f ∈ Field.table, f.name.toList.isEmpty = false ∧
      (f.name.toList.all fun c => Nat.ble '$'.toNat c.toNat && Nat.ble c.toNat 'z'.toNat) = true := by decide +kernel
  obtain ⟨f, hf, -⟩ := h
  obtain ⟨hempty, hchars⟩ := hnames f (List.mem_of_find?_eq_some hf)
  have hname : f.name = c.name := by simpa using List.find?_some hf
  rw [hname] at hempty hchars
  refine ⟨fun hnil => by simp [hnil] at hempty, fun ch hch => ?_⟩
  simpa only [Bool.and_eq_true, Nat.ble_eq] using List.all_eq_true.mp hchars ch hch

theorem hasField_of_readCounter {line : Nat} {fields : List String} (h : readCounter line fields = .ok c) :
    HasField c := by
  unfold readCounter at h
  split at h
  · split at h
    · cases h
    · cases h
    · cases h
      exact ⟨_, ‹_›, rfl⟩
  · cases h

theorem hasField_of_readRecords {rs : List (Nat × List String)} (h : readRecords rs = .ok cs) :
    ∀ c ∈ cs, HasField c := by
  induction rs generalizing cs with
  | nil =>
    cases h
    exact nofun
  | cons r rs ih =>
    obtain ⟨line, fields⟩ := r
    rw [readRecords] at h
    split at h
    · exact ih h
    · obtain ⟨c, hc, h⟩ := bind_eq_ok_iff.mp h
      obtain ⟨cs, hcs, ⟨⟩⟩ := bind_eq_ok_iff.mp h
      exact List.forall_mem_cons.mpr ⟨hasField_of_readCounter hc, ih hcs⟩

theorem hasField_of_readByteRecords {k : Nat} {rs : List (Csv.Record UInt8)} (h : readByteRecords k rs = .ok cs) :
    ∀ c ∈ cs, HasField c := by
  induction rs generalizing k cs with
  | nil =>
    cases h
    exact nofun
  | cons r rs ih =>
    rw [readByteRecords] at h
    split at h
    · cases h
    · dsimp only at h
      split at h
      · exact ih h
      · obtain ⟨c, hc, h⟩ := bind_eq_ok_iff.mp h
        obtain ⟨cs, hcs, ⟨⟩⟩ := bind_eq_ok_iff.mp h
        exact List.forall_mem_cons.mpr ⟨hasField_of_readCounter hc, ih hcs⟩

/-- Whatever bytes a catalog is read from, its counters have their fields. -/
theorem hasField_of_ofBytes {bytes : List UInt8} (h : ofBytes bytes = .ok cs) : ∀ c ∈ cs, HasField c := by
  rw [ofBytes] at h
  split at h
  · exact hasField_of_readRecords h
  · exact hasField_of_readByteRecords h

end HasField
end Catalog
end Telemetry
