import Telemetry.Proofs.Settings.Layers

/-! Files of settings that are flat: names with scalars under them. Such a file gives its entries as they stand, unless
    one of its scalars is an infinity or no number, which make the whole file unreadable. -/

namespace Telemetry.Settings

open SettingValue SortedMap Yaml

/-! ### Scalars -/

/-- The words for what is no finite number. -/
def nonFiniteWords : List String :=
  [".inf", ".Inf", ".INF", "+.inf", "+.Inf", "+.INF", "-.inf", "-.Inf", "-.INF", ".nan", ".NaN", ".NAN"]

/-- An infinity, or no number. -/
def Scalar.NonFinite (x : Scalar) : Prop := ∃ s ∈ nonFiniteWords, x = .double s

instance (x : Scalar) : Decidable x.NonFinite := inferInstanceAs (Decidable (∃ _ ∈ _, _))

theorem isDouble_of_plainScalar {s t : String} (h : plainScalar s = .double t) : isDouble t = true := by
  rw [plainScalar] at h
  grind

theorem isDouble_of_taggedScalar {tag s t : String} (h : taggedScalar tag s = .double t) : isDouble t = true := by
  rw [taggedScalar] at h
  cases hint : Numeral.int64? 10 s.toList <;> grind

/-- A scalar stands for a double only if its text is one. -/
theorem isDouble_of_scalar {style : Style} {tag : Option String} {s t : String} (h : scalar style tag s = .double t) :
    isDouble t = true := by
  unfold scalar at h
  split at h
  · exact isDouble_of_plainScalar h
  · exact isDouble_of_taggedScalar h
  · cases h

theorem mem_nonFiniteWords {s : String} (h : isDouble s = true) (hnone : Double.ofChars? s.toList = none) :
    s ∈ nonFiniteWords := by
  simpa [isDouble, nonFiniteWords, hnone] using h

/-- Only what is no finite number has no value. -/
theorem value?_scalar_eq_none_iff (style : Style) (tag : Option String) (s : String) :
    (scalar style tag s).value? = none ↔ (scalar style tag s).NonFinite := by
  constructor
  · intro h
    cases hx : scalar style tag s with
    | double t =>
      rw [hx] at h
      exact ⟨t, mem_nonFiniteWords (isDouble_of_scalar hx) (Option.map_eq_none_iff.mp h), rfl⟩
    | _ =>
      rw [hx] at h
      cases h
  · have hwords : ∀ w ∈ nonFiniteWords, Double.ofChars? w.toList = none := by decide +kernel
    rintro ⟨w, hw, heq⟩
    rw [heq, Scalar.value?, hwords w hw]
    rfl

/-- The value that a scalar has, if it is not one of those without any. -/
def Scalar.value (x : Scalar) : SettingValue := x.value?.getD .nil

theorem Scalar.value_ne_table (x : Scalar) (inner : List (String × SettingValue)) : x.value ≠ .table inner := by
  cases x with
  | double s => cases hs : Double.ofChars? s.toList <;> simp [value, value?, hs]
  | _ => exact nofun

/-! ### Entries -/

/-- The entries of a mapping of scalars: the names, each with the scalar under it. -/
def flatEntries? : List (Node × Node) → Option (List (String × Scalar))
  | [] => some []
  | (key, .scalar style tag s) :: es => do
    let (_, name) ← readKey key
    let rest ← flatEntries? es
    pure ((name, scalar style tag s) :: rest)
  | _ => none

/-- The entries of a file that is a mapping of scalars, or has nothing in it; there may be no file. -/
def flat? : Option String → Option (List (String × Scalar))
  | none => some []
  | some content =>
    match parse? lenient content with
    | some none => some []
    | some (some (.mapping es)) => flatEntries? es
    | _ => none

/-- A file that is a flat map from names to scalars, the directory not among them. -/
structure IsFlat (file : Option String) (entries : List (String × Scalar)) : Prop where
  reads : flat? file = some entries
  names : ∀ e ∈ entries, IsName e.1 ∧ e.1 ≠ "config_dir"
  nodup : (entries.map Prod.fst).Nodup

section Entries
variable {n : Node × Node} {ns : List (Node × Node)} {entries : List (String × Scalar)}

theorem eq_cons_of_flatEntries? (h : flatEntries? (n :: ns) = some entries) : ∃ x name style tag s rest,
    readKey n.1 = some (x, name) ∧ n.2 = .scalar style tag s ∧ flatEntries? ns = some rest ∧
      entries = (name, scalar style tag s) :: rest := by
  obtain ⟨key, value⟩ := n
  cases value with
  | scalar style tag s =>
    rw [flatEntries?] at h
    obtain ⟨⟨x, name⟩, hkey, h⟩ := Option.bind_eq_some_iff.mp h
    obtain ⟨rest, hrest, h⟩ := Option.bind_eq_some_iff.mp h
    exact ⟨x, name, style, tag, s, rest, hkey, rfl, hrest, (Option.some.inj h).symm⟩
  | _ => cases h

theorem key?_of_readKey {key : Node} {x : Scalar × String} (h : readKey key = some x) : x.1.key? = some x.2 := by
  cases key with
  | scalar style tag s =>
    obtain ⟨name, hname, rfl⟩ := Option.map_eq_some_iff.mp h
    exact hname
  | _ => cases h

theorem mapM_readKey (h : flatEntries? ns = some entries) :
    ∃ keys, ns.mapM (fun n => readKey n.1) = some keys ∧ keys.map Prod.snd = entries.map Prod.fst ∧
      ∀ x ∈ keys, x.1.key? = some x.2 := by
  induction ns generalizing entries with
  | nil =>
    cases h
    exact ⟨[], rfl, rfl, nofun⟩
  | cons n ns ih =>
    obtain ⟨x, name, style, tag, s, rest, hkey, -, hrest, rfl⟩ := eq_cons_of_flatEntries? h
    obtain ⟨keys, hkeys, hnames, hall⟩ := ih hrest
    refine ⟨(x, name) :: keys, ?_, by rw [List.map_cons, List.map_cons, hnames], ?_⟩
    · rw [List.mapM_cons, hkey, hkeys]
      rfl
    · exact List.forall_mem_cons.mpr ⟨key?_of_readKey hkey, hall⟩

/-- Keys that are different as texts stand for different things. -/
theorem nodup_map_fst {keys : List (Scalar × String)} (hall : ∀ x ∈ keys, x.1.key? = some x.2)
    (h : (keys.map Prod.snd).Nodup) : (keys.map Prod.fst).Nodup := by
  rw [List.Nodup, List.pairwise_map] at h ⊢
  refine h.imp_of_mem fun hx hy hne heq => hne (Option.some.inj ?_)
  rw [← hall _ hx, ← hall _ hy, heq]

theorem readValues_eq (h : flatEntries? ns = some entries) :
    readValues ns = if ∃ e ∈ entries, e.2.NonFinite then none else some (entries.map fun e => e.2.value) := by
  induction ns generalizing entries with
  | nil =>
    cases h
    rfl
  | cons n ns ih =>
    obtain ⟨x, name, style, tag, s, rest, -, hvalue, hrest, rfl⟩ := eq_cons_of_flatEntries? h
    obtain ⟨key, value⟩ := n
    subst hvalue
    rw [readValues, ih hrest, readNode]
    cases hvalue : (scalar style tag s).value? with
    | none =>
      have hnot : (scalar style tag s).NonFinite := (value?_scalar_eq_none_iff style tag s).mp hvalue
      have hexists : ∃ e ∈ (name, scalar style tag s) :: rest, e.2.NonFinite := ⟨_, List.mem_cons_self, hnot⟩
      rw [if_pos hexists]
      rfl
    | some v =>
      have hfinite : ¬ (scalar style tag s).NonFinite := fun hnot => by
        rw [(value?_scalar_eq_none_iff style tag s).mpr hnot] at hvalue
        cases hvalue
      have hiff : (∃ e ∈ (name, scalar style tag s) :: rest, e.2.NonFinite) ↔ ∃ e ∈ rest, e.2.NonFinite := by
        simp [hfinite]
      simp only [hiff, List.map_cons, Scalar.value, hvalue, Option.getD_some]
      split <;> rfl

/-- The values of the entries. -/
def values (entries : List (String × Scalar)) : List (String × SettingValue) := entries.map fun e => (e.1, e.2.value)

theorem map_fst_values (entries : List (String × Scalar)) : (values entries).map Prod.fst = entries.map Prod.fst := by
  rw [values, List.map_map]
  rfl

theorem readNode_mapping (h : flatEntries? ns = some entries) (hnodup : (entries.map Prod.fst).Nodup) :
    readNode (.mapping ns) =
      if ∃ e ∈ entries, e.2.NonFinite then none else some (.table (values entries)) := by
  obtain ⟨keys, hkeys, hnames, hall⟩ := mapM_readKey h
  have hdistinct : (keys.map Prod.fst).Nodup := nodup_map_fst hall (hnames ▸ hnodup)
  rw [readNode, hkeys, readValues_eq h]
  by_cases hnot : ∃ e ∈ entries, e.2.NonFinite
  · rw [if_pos hnot, if_pos hnot]
    rfl
  · rw [if_neg hnot, if_neg hnot]
    simp only [bind, Option.bind, if_pos hdistinct]
    have hdisjoint : (([] ++ values entries).map Prod.fst).Nodup := by rwa [List.nil_append, map_fst_values]
    rw [hnames, List.zip_map', ← values, foldl_putEntry hdisjoint, List.nil_append]

end Entries

/-! ### Files -/

section Values
variable {entries : List (String × Scalar)}

theorem plain_values (h : ∀ e ∈ entries, IsName e.1) : Plain (values entries) := by
  intro e he
  obtain ⟨e, hmem, rfl⟩ := List.mem_map.mp he
  exact ⟨h e hmem, e.2.value_ne_table⟩

theorem IsFlat.plain {file : Option String} (h : IsFlat file entries) : Plain (values entries) :=
  plain_values fun e he => (h.names e he).1

theorem IsFlat.nodup_values {file : Option String} (h : IsFlat file entries) :
    ((values entries).map Prod.fst).Nodup := by
  rw [map_fst_values]
  exact h.nodup

theorem lookup_values (k : String) (entries : List (String × Scalar)) :
    lookup k (values entries) = (lookup k entries).map Scalar.value := by
  induction entries with
  | nil => rfl
  | cons e entries ih =>
    rw [values, List.map_cons, lookup, lookup]
    split
    · rfl
    · exact ih

/-- A flat file is read with all its values, or not at all. -/
theorem readFile_eq {content : String} (h : flat? (some content) = some entries)
    (hnodup : (entries.map Prod.fst).Nodup) :
    readFile content = if ∃ e ∈ entries, e.2.NonFinite then .error .unreadableFile else .ok (values entries) := by
  simp only [flat?] at h
  split at h
  · next hparse =>
    cases h
    simp [readFile, hparse, values]
  · next ns hparse =>
    by_cases hnot : ∃ e ∈ entries, e.2.NonFinite
    · simp only [readFile, hparse, readNode_mapping h hnodup, if_pos hnot]
    · simp only [readFile, hparse, readNode_mapping h hnodup, if_neg hnot]
  · cases h

theorem load_of_isFlat {file : Option String} (h : IsFlat file entries) (dir : String) (a : Arguments) :
    load dir file a =
      if ∃ e ∈ entries, e.2.NonFinite then .error .unreadableFile else ofValue (layered dir (values entries) a) := by
  have hreads := h.reads
  cases file with
  | none =>
    cases hreads
    rw [if_neg (by simp), values, List.map_nil, load]
    simp only [bind, pure, Except.pure, Except.bind]
  | some content =>
    rw [load]
    simp only [readFile_eq hreads h.nodup]
    by_cases hnot : ∃ e ∈ entries, e.2.NonFinite
    · simp only [if_pos hnot, bind, Except.bind]
    · simp only [if_neg hnot, bind, Except.bind]

end Values

end Telemetry.Settings
