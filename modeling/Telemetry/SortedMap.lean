/-! Maps from texts, as lists of entries in ascending order of their keys. Equal maps are equal lists,
    so that what a map holds and how it is written never depend on the order of insertion. -/

namespace Telemetry
open scoped List

/-- A finite map from texts. -/
structure SortedMap (α : Type) where
  entries : List (String × α)
  sorted : entries.Pairwise fun x y => x.1 < y.1

namespace SortedMap

variable {α β : Type}

def empty : SortedMap α := ⟨[], List.Pairwise.nil⟩

instance : Inhabited (SortedMap α) := ⟨empty⟩

instance : EmptyCollection (SortedMap α) := ⟨empty⟩

theorem ext {m n : SortedMap α} (h : m.entries = n.entries) : m = n := by
  cases m
  cases n
  cases h
  rfl

instance [DecidableEq α] : DecidableEq (SortedMap α) := fun m n =>
  if h : m.entries = n.entries then isTrue (ext h) else isFalse fun e => h (e ▸ rfl)

/-- The value under a key among some entries. -/
def lookup (k : String) : List (String × α) → Option α
  | [] => none
  | (j, a) :: es => if j = k then some a else lookup k es

/-- Entries in order with a value put under a key, in place of what the key had. -/
def insertEntry (k : String) (a : α) : List (String × α) → List (String × α)
  | [] => [(k, a)]
  | (j, b) :: es =>
    if k < j then (k, a) :: (j, b) :: es
    else if k = j then (k, a) :: es
    else (j, b) :: insertEntry k a es

theorem mem_insertEntry {k : String} {a : α} {es : List (String × α)} {e : String × α}
    (h : e ∈ insertEntry k a es) : e = (k, a) ∨ e ∈ es := by
  induction es with
  | nil => simpa [insertEntry] using h
  | cons x es ih =>
    obtain ⟨j, b⟩ := x
    simp only [insertEntry] at h
    split at h
    · simpa using h
    · split at h <;> grind

theorem pairwise_insertEntry {k : String} {a : α} {es : List (String × α)}
    (h : es.Pairwise fun x y => x.1 < y.1) : (insertEntry k a es).Pairwise fun x y => x.1 < y.1 := by
  induction es with
  | nil => simp [insertEntry]
  | cons x es ih =>
    obtain ⟨j, b⟩ := x
    obtain ⟨hx, hes⟩ := List.pairwise_cons.1 h
    simp only [insertEntry]
    split
    · rename_i hlt
      refine List.pairwise_cons.2 ⟨fun y hy => ?_, h⟩
      rcases List.mem_cons.1 hy with rfl | hy
      · exact hlt
      · exact String.lt_trans hlt (hx y hy)
    · split
      · rename_i heq
        subst heq
        exact List.pairwise_cons.2 ⟨hx, hes⟩
      · rename_i hlt hne
        refine List.pairwise_cons.2 ⟨fun y hy => ?_, ih hes⟩
        rcases mem_insertEntry hy with rfl | hy
        · grind
        · exact hx y hy

/-- The value under a key. -/
def get? (m : SortedMap α) (k : String) : Option α := lookup k m.entries

/-- With a value under a key, in place of what the key had. -/
def insert (m : SortedMap α) (k : String) (a : α) : SortedMap α :=
  ⟨insertEntry k a m.entries, pairwise_insertEntry m.sorted⟩

/-- Without what is under a key. -/
def erase (m : SortedMap α) (k : String) : SortedMap α :=
  ⟨m.entries.filter fun e => e.1 ≠ k, m.sorted.filter _⟩

/-- The map of some entries; of two with one key, the later counts. -/
def ofList (es : List (String × α)) : SortedMap α := es.foldl (fun m e => m.insert e.1 e.2) empty

/-- The entries, by ascending key. -/
def toList (m : SortedMap α) : List (String × α) := m.entries

/-- Whether there is no entry. -/
def isEmpty (m : SortedMap α) : Bool := m.entries.isEmpty

theorem lookup_insertEntry (k j : String) (a : α) (es : List (String × α)) :
    lookup j (insertEntry k a es) = if k = j then some a else lookup j es := by
  induction es with
  | nil => simp [insertEntry, lookup]
  | cons x es ih =>
    obtain ⟨i, b⟩ := x
    simp only [insertEntry]
    split
    · simp [lookup]
    · split
      · rename_i heq
        subst heq
        by_cases h : k = j <;> simp [lookup, h]
      · rename_i hne
        by_cases h : k = j
        · subst h
          simp [lookup, ih, Ne.symm hne]
        · simp [lookup, ih, h]

theorem lookup_filter (k j : String) (es : List (String × α)) :
    lookup j (es.filter fun e => e.1 ≠ k) = if k = j then none else lookup j es := by
  induction es with
  | nil => simp [lookup]
  | cons x es ih =>
    obtain ⟨i, b⟩ := x
    by_cases h : i = k
    · by_cases hk : k = j <;> simp_all [lookup]
    · by_cases hk : k = j
      · subst hk
        simpa [lookup, h] using ih
      · by_cases hi : i = j <;> simp_all [lookup]

@[simp] theorem get?_empty (k : String) : (empty : SortedMap α).get? k = none := rfl

@[simp] theorem get?_insert (m : SortedMap α) (k j : String) (a : α) :
    (m.insert k a).get? j = if k = j then some a else m.get? j := lookup_insertEntry k j a m.entries

@[simp] theorem get?_erase (m : SortedMap α) (k j : String) :
    (m.erase k).get? j = if k = j then none else m.get? j := lookup_filter k j m.entries

/-! ### Values -/

/-- The values, by ascending key. -/
def values (m : SortedMap α) : List α := m.entries.map Prod.snd

theorem filter_eq_self_of_lookup {k : String} {es : List (String × α)} (h : lookup k es = none) :
    (es.filter fun e => e.1 ≠ k) = es := by
  induction es with
  | nil => rfl
  | cons e es ih =>
    obtain ⟨j, a⟩ := e
    have hne : j ≠ k := by
      rintro rfl
      simp [lookup] at h
    rw [lookup, if_neg hne] at h
    rw [List.filter_cons_of_pos (by simpa using hne), ih h]

theorem lookup_eq_none_of_lt {k : String} {es : List (String × α)} (h : ∀ e ∈ es, k < e.1) : lookup k es = none := by
  induction es with
  | nil => rfl
  | cons e es ih =>
    obtain ⟨hlt, hes⟩ := List.forall_mem_cons.mp h
    have hne : e.1 ≠ k := fun heq => String.lt_irrefl k (heq ▸ hlt)
    rw [lookup, if_neg hne, ih hes]

theorem perm_filter {k : String} {a : α} {es : List (String × α)} (hsorted : es.Pairwise fun x y => x.1 < y.1)
    (h : lookup k es = some a) : ((k, a) :: es.filter fun e => e.1 ≠ k).Perm es := by
  induction es with
  | nil => cases h
  | cons e es ih =>
    obtain ⟨j, b⟩ := e
    obtain ⟨hlt, hes⟩ := List.pairwise_cons.mp hsorted
    rw [lookup] at h
    split at h
    · next heq =>
      cases heq
      cases h
      rw [List.filter_cons_of_neg (by simp), filter_eq_self_of_lookup (lookup_eq_none_of_lt hlt)]
    · next hne =>
      rw [List.filter_cons_of_pos (by simpa using hne)]
      exact (List.Perm.swap _ _ _).trans ((ih hes h).cons (j, b))

theorem filter_insertEntry (k : String) (a : α) (es : List (String × α)) :
    ((insertEntry k a es).filter fun e => e.1 ≠ k) = es.filter fun e => e.1 ≠ k := by
  induction es with
  | nil => simp [insertEntry]
  | cons e es ih =>
    rw [insertEntry]
    split
    · rw [List.filter_cons_of_neg (by simp)]
    · split
      · next heq => rw [List.filter_cons_of_neg (by simp), List.filter_cons_of_neg (by simp [heq])]
      · rw [List.filter_cons, ih, List.filter_cons]

/-- Erasing takes the value under the key away, and nothing else. -/
theorem perm_values_erase (m : SortedMap α) (k : String) :
    ((m.get? k).toList ++ (m.erase k).values).Perm m.values := by
  cases h : m.get? k with
  | none =>
    have hsame : m.erase k = m := ext (filter_eq_self_of_lookup h)
    rw [hsame]
    exact List.Perm.refl _
  | some a => exact (perm_filter m.sorted h).map Prod.snd

/-- Inserting adds the value and takes away the one that the key had. -/
theorem perm_values_insert (m : SortedMap α) (k : String) (a : α) :
    ((m.get? k).toList ++ (m.insert k a).values).Perm (a :: m.values) := by
  have hsame : (m.insert k a).erase k = m.erase k := ext (filter_insertEntry k a m.entries)
  have hinsert := perm_values_erase (m.insert k a) k
  rw [hsame, get?_insert, if_pos rfl] at hinsert
  calc (m.get? k).toList ++ (m.insert k a).values
    _ ~ (m.get? k).toList ++ (a :: (m.erase k).values) := hinsert.symm.append_left _
    _ ~ a :: ((m.get? k).toList ++ (m.erase k).values) := List.perm_middle
    _ ~ a :: m.values := (perm_values_erase m k).cons a

end SortedMap
end Telemetry
