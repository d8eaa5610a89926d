import Mathlib.Data.List.ReduceOption
import Telemetry.Proofs.Catalog.Bytes
import Telemetry.Proofs.Catalog.Fields

/-! Faults of catalogs. A catalog is accepted if and only if each of its records can be read and is passed over or
    describes a counter, and then it has just the described counters. Otherwise its first faulty record tells the
    fault, and nothing behind that record has any influence. -/

namespace Telemetry.Catalog

open Text

/-- A record as texts: the line that it is said to be on, and its fields, trimmed. -/
abbrev Row := Nat × List String

/-- What comes of a record: a row, or the fault that a field of it is no text. -/
abbrev Item := Except CatalogError Row

/-! ### What is wrong with a record -/

/-- All fields are empty, or the first one begins with the sign of a comment. -/
def PassedOver (fields : List String) : Prop :=
  (∀ f ∈ fields, f = "") ∨ ∃ f fs, fields = f :: fs ∧ f.toList.head? = some '#'

/-- Three fields: the name of a field of the table, the name of a type, and any help text. -/
inductive Describes : List String → Counter → Prop
  | row {f : Field} (hf : f ∈ Field.table) (type : MetricType) (help : String) :
    Describes [f.name, type.name, help] { field := f.id, name := f.name, type, help }

/-- The record has no fault. -/
inductive Sound : Item → Prop
  | passedOver {line : Nat} {fields : List String} (h : PassedOver fields) : Sound (.ok (line, fields))
  | described {line : Nat} {fields : List String} {c : Counter} (h : Describes fields c) : Sound (.ok (line, fields))

/-- The fault of a record. The number of fields is looked at before their texts, and the name before the type. -/
inductive Faulty : Item → CatalogError → Prop
  | invalid (e : CatalogError) : Faulty (.error e) e
  | fieldCount {line : Nat} {fields : List String} (hcounts : ¬ PassedOver fields) (h : fields.length ≠ 3) :
    Faulty (.ok (line, fields)) (.fieldCount line fields.length)
  | unknownField {line : Nat} {name type help : String} (hcounts : ¬ PassedOver [name, type, help])
    (h : ∀ f ∈ Field.table, f.name ≠ name) : Faulty (.ok (line, [name, type, help])) (.unknownField line name)
  | unknownType {line : Nat} {f : Field} {type help : String} (hf : f ∈ Field.table)
    (h : ∀ t : MetricType, t.name ≠ type) : Faulty (.ok (line, [f.name, type, help])) (.unknownType line type)

variable {line : Nat} {fields : List String} {x : Item} {xs : List Item} {c : Counter} {cs : List Counter}
  {e : CatalogError} {bytes : List UInt8}

theorem isIgnored_iff : isIgnored fields = true ↔ PassedOver fields := by
  rw [isIgnored, Bool.or_eq_true, List.all_eq_true, PassedOver]
  refine or_congr (by simp [String.isEmpty_iff]) ?_
  cases fields <;> simp

instance (fields : List String) : Decidable (PassedOver fields) := decidable_of_iff _ isIgnored_iff

/-! ### Counters of records -/

theorem ofName?_eq_some_iff {name : String} {t : MetricType} : MetricType.ofName? name = some t ↔ t.name = name := by
  constructor
  · exact fun h => by simpa using List.find?_some h
  · rintro rfl
    exact MetricType.ofName?_name t

theorem ofName?_eq_none_iff {name : String} : MetricType.ofName? name = none ↔ ∀ t : MetricType, t.name ≠ name := by
  have hall (t : MetricType) : t ∈ MetricType.all := by cases t <;> decide
  simp [MetricType.ofName?, List.find?_eq_none, hall]

/-- A record that begins with the name of a field is not passed over. -/
theorem not_passedOver_of_mem {f : Field} (hf : f ∈ Field.table) (fs : List String) : ¬ PassedOver (f.name :: fs) := by
  let named : Counter := { field := f.id, name := f.name, type := .gauge, help := "" }
  have hnamed : HasField named := ⟨f, Field.byName?_eq_some_iff.mpr ⟨hf, rfl⟩, rfl⟩
  obtain ⟨hne, hchars⟩ := hnamed.name_chars
  rintro (hempty | ⟨g, gs, hfields, hsign⟩)
  · refine hne ?_
    rw [show named.name = "" from hempty f.name List.mem_cons_self]
    rfl
  · obtain ⟨rfl, rfl⟩ := List.cons.inj hfields
    exact absurd (hchars '#' (List.mem_of_mem_head? hsign)).1 (by decide)

theorem readCounter_eq_ok_iff : readCounter line fields = .ok c ↔ Describes fields c := by
  constructor
  · intro h
    unfold readCounter at h
    split at h
    · next name type help =>
      split at h
      · cases h
      · cases h
      · next f t hf ht =>
        obtain ⟨hmem, rfl⟩ := Field.byName?_eq_some_iff.mp hf
        obtain rfl := ofName?_eq_some_iff.mp ht
        cases h
        exact .row hmem t help
    · cases h
  · rintro ⟨hf, type, help⟩
    simp only [readCounter, Field.byName?_eq_some_iff.mpr ⟨hf, rfl⟩, MetricType.ofName?_name]

theorem readCounter_eq_error_iff (hcounts : ¬ PassedOver fields) :
    readCounter line fields = .error e ↔ Faulty (.ok (line, fields)) e := by
  constructor
  · intro h
    unfold readCounter at h
    split at h
    · next name type help =>
      split at h
      · next hf =>
        cases h
        exact .unknownField hcounts (Field.byName?_eq_none_iff.mp hf)
      · next f hf ht =>
        obtain ⟨hmem, rfl⟩ := Field.byName?_eq_some_iff.mp hf
        cases h
        exact .unknownType hmem (ofName?_eq_none_iff.mp ht)
      · cases h
    · next hne =>
      cases h
      refine .fieldCount hcounts fun hlength => ?_
      obtain ⟨name, type, help, hfields⟩ := List.length_eq_three.mp hlength
      exact hne name type help hfields
  · intro h
    cases h with
    | fieldCount _ hlength =>
      unfold readCounter
      split
      · exact absurd rfl hlength
      · rfl
    | unknownField _ hname => simp only [readCounter, Field.byName?_eq_none_iff.mpr hname]
    | unknownType hf htype =>
      simp only [readCounter, Field.byName?_eq_some_iff.mpr ⟨hf, rfl⟩, ofName?_eq_none_iff.mpr htype]

/-! ### What a record adds -/

/-- What a record adds to a catalog: nothing if it is passed over, else a counter. -/
def counterOf : Item → Except CatalogError (Option Counter)
  | .error e => .error e
  | .ok row => if isIgnored row.2 then .ok none else (readCounter row.1 row.2).map some

theorem counterOf_of_passedOver (h : PassedOver fields) : counterOf (.ok (line, fields)) = .ok none :=
  if_pos (isIgnored_iff.mpr h)

theorem counterOf_of_counted (h : ¬ PassedOver fields) :
    counterOf (.ok (line, fields)) = (readCounter line fields).map some :=
  if_neg (mt isIgnored_iff.mp h)

theorem Describes.not_passedOver (h : Describes fields c) : ¬ PassedOver fields := by
  obtain ⟨hf, type, help⟩ := h
  exact not_passedOver_of_mem hf _

theorem Faulty.not_passedOver (h : Faulty (.ok (line, fields)) e) : ¬ PassedOver fields := by
  cases h with
  | fieldCount hcounts _ => exact hcounts
  | unknownField hcounts _ => exact hcounts
  | unknownType hf _ => exact not_passedOver_of_mem hf _

theorem counterOf_eq_ok_iff {o : Option Counter} :
    counterOf x = .ok o ↔ ∃ row : Row, x = .ok row ∧
      (PassedOver row.2 ∧ o = none ∨ ∃ c, Describes row.2 c ∧ o = some c) := by
  constructor
  · intro h
    cases x with
    | error e => cases h
    | ok row =>
      obtain ⟨line, fields⟩ := row
      refine ⟨_, rfl, ?_⟩
      by_cases hpassed : PassedOver fields
      · rw [counterOf_of_passedOver hpassed] at h
        exact .inl ⟨hpassed, (Except.ok.inj h).symm⟩
      · rw [counterOf_of_counted hpassed] at h
        obtain ⟨c, hc, rfl⟩ := map_eq_ok_iff.mp h
        exact .inr ⟨c, readCounter_eq_ok_iff.mp hc, rfl⟩
  · rintro ⟨⟨line, fields⟩, rfl, ⟨hpassed, rfl⟩ | ⟨c, hc, rfl⟩⟩
    · exact counterOf_of_passedOver hpassed
    · rw [counterOf_of_counted hc.not_passedOver, map_eq_ok_iff]
      exact ⟨c, readCounter_eq_ok_iff.mpr hc, rfl⟩

theorem counterOf_eq_error_iff : counterOf x = .error e ↔ Faulty x e := by
  cases x with
  | error e' =>
    constructor
    · rintro ⟨⟩
      exact .invalid e
    · rintro ⟨⟩
      rfl
  | ok row =>
    obtain ⟨line, fields⟩ := row
    by_cases hpassed : PassedOver fields
    · rw [counterOf_of_passedOver hpassed]
      exact iff_of_false nofun fun h => h.not_passedOver hpassed
    · rw [counterOf_of_counted hpassed, map_eq_error_iff, readCounter_eq_error_iff hpassed]

theorem exists_counterOf_iff : (∃ o, counterOf x = .ok o) ↔ Sound x := by
  simp only [counterOf_eq_ok_iff]
  constructor
  · rintro ⟨o, ⟨line, fields⟩, rfl, ⟨hpassed, -⟩ | ⟨c, hc, -⟩⟩
    · exact .passedOver hpassed
    · exact .described hc
  · intro h
    cases h with
    | passedOver h => exact ⟨none, _, rfl, .inl ⟨h, rfl⟩⟩
    | described h => exact ⟨some _, _, rfl, .inr ⟨_, h, rfl⟩⟩

/-! ### Records one after the other -/

/-- The counters of items. -/
def readItems (xs : List Item) : Except CatalogError (List Counter) := (xs.mapM counterOf).map List.reduceOption

theorem readItems_cons (row : Row) (xs : List Item) :
    readItems (.ok row :: xs) =
      if isIgnored row.2 then readItems xs
      else readCounter row.1 row.2 >>= fun c => readItems xs >>= fun cs => pure (c :: cs) := by
  rw [readItems, readItems, List.mapM_cons, counterOf]
  cases isIgnored row.2 <;> cases readCounter row.1 row.2 <;> cases xs.mapM counterOf <;> rfl

theorem readRecords_eq (rows : List Row) : readRecords rows = readItems (rows.map .ok) := by
  induction rows with
  | nil => rfl
  | cons row rows ih =>
    rw [List.map_cons, readItems_cons, ← ih]
    rfl

/-- What comes of the record with a number. -/
def itemOf (k : Nat) (r : Csv.Record UInt8) : Item :=
  match fieldTexts 0 r.fields with
  | .error (f, n) => .error (.invalidText k r.position.line f r.position.offset n)
  | .ok ts => .ok (r.position.line, ts.map trimmed)

theorem readByteRecords_eq_readItems (k : Nat) (rs : List (Csv.Record UInt8)) :
    readByteRecords k rs = readItems ((rs.zipIdx k).map fun x => itemOf x.2 x.1) := by
  induction rs generalizing k with
  | nil => rfl
  | cons r rs ih =>
    rw [List.zipIdx_cons, List.map_cons, readByteRecords, itemOf, ih (k + 1)]
    cases fieldTexts 0 r.fields with
    | error fault => rfl
    | ok ts => exact (readItems_cons (r.position.line, ts.map trimmed) _).symm

theorem exists_readItems_iff : (∃ cs, readItems xs = .ok cs) ↔ ∀ x ∈ xs, Sound x := by
  simp only [readItems, map_eq_ok_iff, ← exists_counterOf_iff, ← exists_mapM_iff]
  exact ⟨fun ⟨_, os, hos, _⟩ => ⟨os, hos⟩, fun ⟨os, hos⟩ => ⟨_, os, hos, rfl⟩⟩

/-- Reading fails with the fault of the first faulty record. -/
theorem readItems_eq_error_iff :
    readItems xs = .error e ↔ ∃ before x after, xs = before ++ x :: after ∧ (∀ y ∈ before, Sound y) ∧ Faulty x e := by
  simp only [readItems, map_eq_error_iff, mapM_eq_error_iff, exists_counterOf_iff, counterOf_eq_error_iff]

/-- Reading succeeds with the counters that the rows describe, if there are only rows and each is passed over or
    describes one. -/
theorem readItems_eq_ok_iff :
    readItems xs = .ok cs ↔ ∃ rows : List Row, xs = rows.map .ok ∧
      List.Forall₂ (fun row c => Describes row.2 c) (rows.filter fun row => ¬ PassedOver row.2) cs := by
  rw [readItems, map_eq_ok_iff]
  simp only [mapM_eq_ok_iff]
  constructor
  · rintro ⟨os, hos, rfl⟩
    induction hos with
    | nil => exact ⟨[], rfl, .nil⟩
    | cons hx _ ih =>
      obtain ⟨rows, rfl, hrows⟩ := ih
      obtain ⟨row, rfl, ⟨hpassed, rfl⟩ | ⟨c, hc, rfl⟩⟩ := counterOf_eq_ok_iff.mp hx
      · refine ⟨row :: rows, rfl, ?_⟩
        rwa [List.filter_cons_of_neg (by simpa using hpassed), List.reduceOption_cons_of_none]
      · refine ⟨row :: rows, rfl, ?_⟩
        rw [List.filter_cons_of_pos (by simpa using hc.not_passedOver), List.reduceOption_cons_of_some]
        exact .cons hc hrows
  · rintro ⟨rows, rfl, h⟩
    induction rows generalizing cs with
    | nil =>
      cases h
      exact ⟨[], .nil, rfl⟩
    | cons row rows ih =>
      by_cases hpassed : PassedOver row.2
      · rw [List.filter_cons_of_neg (by simpa using hpassed)] at h
        obtain ⟨os, hos, rfl⟩ := ih h
        exact ⟨none :: os, .cons (counterOf_eq_ok_iff.mpr ⟨row, rfl, .inl ⟨hpassed, rfl⟩⟩) hos, rfl⟩
      · rw [List.filter_cons_of_pos (by simpa using hpassed)] at h
        cases h with
        | cons hc hrows =>
          obtain ⟨os, hos, rfl⟩ := ih hrows
          exact ⟨some _ :: os, .cons (counterOf_eq_ok_iff.mpr ⟨row, rfl, .inr ⟨_, hc, rfl⟩⟩) hos, rfl⟩

/-! ### Bytes -/

/-- What comes of the records of bytes, one after the other. -/
def itemsOf (bytes : List UInt8) : List Item := ((byteRecords bytes).zipIdx).map fun x => itemOf x.2 x.1

theorem ofBytes_eq_readItems (bytes : List UInt8) : ofBytes bytes = readItems (itemsOf bytes) := by
  rw [ofBytes_eq, readByteRecords_eq_readItems, itemsOf]

/-- No record is open behind the bytes. -/
def Complete (bytes : List UInt8) : Prop :=
  (Csv.read symbolOfByte (afterMark bytes).1 (afterMark bytes).2).1.mode = .between

instance (bytes : List UInt8) : Decidable (Complete bytes) := inferInstanceAs (Decidable (_ = _))

/-- The bytes of the mark. -/
def markBytes : List UInt8 := [0xef, 0xbb, 0xbf]

theorem afterMark_of_unmarked (h : ¬ markBytes <+: bytes) : afterMark bytes = ({}, bytes) := by
  unfold afterMark
  split
  · exact absurd ⟨_, rfl⟩ h
  · rfl

/-- What is added behind a complete record adds nothing to a mark. -/
theorem afterMark_append (hne : bytes ≠ []) (hcomplete : Complete bytes) (rest : List UInt8) :
    afterMark (bytes ++ rest) = ((afterMark bytes).1, (afterMark bytes).2 ++ rest) := by
  by_cases hmark : markBytes <+: bytes
  · obtain ⟨tail, rfl⟩ := hmark
    rfl
  · have hnot : ¬ markBytes <+: bytes ++ rest := by
      intro happend
      -- Otherwise the bytes are the first one or two of the mark, which leave a record open.
      have hinit : bytes <+: markBytes :=
        (List.prefix_or_prefix_of_prefix happend (List.prefix_append bytes rest)).resolve_left hmark
      rcases bytes with _ | ⟨b, _ | ⟨b', _ | ⟨b'', bytes⟩⟩⟩
      · exact hne rfl
      · obtain rfl : b = 0xef := by simpa [markBytes] using hinit
        exact absurd hcomplete (by decide)
      · obtain ⟨rfl, rfl⟩ : b = 0xef ∧ b' = 0xbb := by simpa [markBytes] using hinit
        exact absurd hcomplete (by decide)
      · have heq := hinit.eq_of_length_le (by simp [markBytes])
        exact hmark (heq ▸ List.prefix_rfl)
    rw [afterMark_of_unmarked hmark, afterMark_of_unmarked hnot]

theorem itemsOf_append (hne : bytes ≠ []) (hcomplete : Complete bytes) (rest : List UInt8) :
    ∃ more, itemsOf (bytes ++ rest) = itemsOf bytes ++ more := by
  have hrecords : byteRecords bytes = (Csv.read symbolOfByte (afterMark bytes).1 (afterMark bytes).2).2 :=
    Csv.recordsFrom_of_between hcomplete
  rw [itemsOf, itemsOf, byteRecords, afterMark_append hne hcomplete, Csv.recordsFrom_append, ← hrecords,
    List.zipIdx_append, List.map_append]
  exact ⟨_, rfl⟩

/-- A catalog is accepted with the counters that its rows describe if every record is sound, and fails otherwise with
    the fault of the first record that is not. What is added behind a complete record that is or follows a faulty one
    changes nothing. -/
theorem ofBytes_first_fault (bytes : List UInt8) :
    (∀ cs, ofBytes bytes = .ok cs ↔ ∃ rows : List Row, itemsOf bytes = rows.map .ok ∧
      List.Forall₂ (fun row c => Describes row.2 c) (rows.filter fun row => ¬ PassedOver row.2) cs) ∧
    ((∃ cs, ofBytes bytes = .ok cs) ↔ ∀ x ∈ itemsOf bytes, Sound x) ∧
    (∀ e, ofBytes bytes = .error e ↔ ∃ before x after, itemsOf bytes = before ++ x :: after ∧
      (∀ y ∈ before, Sound y) ∧ Faulty x e) ∧
    (∀ e rest, Complete bytes → ofBytes bytes = .error e → ofBytes (bytes ++ rest) = .error e) := by
  rw [ofBytes_eq_readItems]
  refine ⟨fun cs => readItems_eq_ok_iff, ?accepted, fun e => readItems_eq_error_iff, ?behind⟩
  case accepted => exact exists_readItems_iff
  case behind =>
    intro e rest hcomplete herror
    have hne : bytes ≠ [] := by
      rintro rfl
      cases herror
    obtain ⟨more, hmore⟩ := itemsOf_append hne hcomplete rest
    obtain ⟨before, x, after, hitems, hbefore, hx⟩ := readItems_eq_error_iff.mp herror
    rw [ofBytes_eq_readItems, hmore, hitems, List.append_assoc, List.cons_append]
    exact readItems_eq_error_iff.mpr ⟨before, x, after ++ more, rfl, hbefore, hx⟩

/-- Behind a comment, a row of empty fields and a counter, a row whose name and type are both unknown. -/
def misspelt : List UInt8 :=
  bytesOf "# name,type\n ,\nDCGM_FI_DEV_GPU_TEMP,gauge,\"T, in C\"\nDCGM_FI_DEV_WARP,meter,w\n".toList

/-- The name is what is wrong with it, whatever the bytes behind it are. -/
theorem ofBytes_first_fault_misspelt :
    let e : CatalogError := .unknownField 4 "DCGM_FI_DEV_WARP"
    Complete misspelt ∧ ofBytes misspelt = .error e ∧
      (∃ before x after, itemsOf misspelt = before ++ x :: after ∧ (∀ y ∈ before, Sound y) ∧ Faulty x e) ∧
      (∀ rest, ofBytes (misspelt ++ rest) = .error e) := by
  intro e
  have hcomplete : Complete misspelt := by decide +kernel
  have herror : ofBytes misspelt = .error e := rfl
  obtain ⟨-, -, hfirst, hbehind⟩ := ofBytes_first_fault misspelt
  exact ⟨hcomplete, herror, (hfirst e).mp herror, fun rest => hbehind e rest hcomplete herror⟩

end Telemetry.Catalog
