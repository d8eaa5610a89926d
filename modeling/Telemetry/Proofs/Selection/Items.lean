import Mathlib.Data.List.Sort
import Telemetry.Proofs.Ending
import Telemetry.Proofs.Numeral
import Telemetry.Selection.Reading

/-! The lists of rule texts. An item of a list is a numeral, or two of them with a minus in between, and
    covers the indices from the first to the second. A list is read exactly where each of its items is
    one, and what is read are the indices that some item covers, ascending. -/

namespace Telemetry
namespace SelectionRules
open Text Numeral

/-! ### The grammar -/

/-- An item with the first and the last of the indices that it covers, of which there are at most 1024. -/
inductive Item : List Char → UInt32 → UInt32 → Prop where
  | single {cs : List Char} {i : UInt32} (h : Spells cs i.toNat) : Item cs i i
  | span {as bs : List Char} {i j : UInt32} (hi : Spells as i.toNat) (hj : Spells bs j.toNat) (hle : i ≤ j)
      (hwidth : j.toNat - i.toNat ≤ 1023) : Item (as ++ '-' :: bs) i j

def IsItem (x : List Char) : Prop := ∃ i j, Item x i j

/-- The item covers the index. -/
def Covers (x : List Char) (k : UInt32) : Prop := ∃ i j, Item x i j ∧ i ≤ k ∧ k ≤ j

theorem Item.le {x : List Char} {i j : UInt32} (h : Item x i j) : i ≤ j := by
  cases h with
  | single => exact UInt32.le_refl i
  | span _ _ hle => exact hle

theorem IsItem.exists_covers {x : List Char} (h : IsItem x) : ∃ k, Covers x k := by
  obtain ⟨i, j, hx⟩ := h
  exact ⟨i, i, j, hx, UInt32.le_refl i, hx.le⟩

theorem not_mem_of_spells {cs : List Char} {n : Nat} {c : Char} (h : Spells cs n) (hdigit : c.isDigit = false)
    (hplus : c ≠ '+') : c ∉ cs := by
  intro hc
  rcases h.isDigit_or_plus c hc with htrue | rfl
  · rw [hdigit] at htrue
    cases htrue
  · exact hplus rfl

/-- Items are made of digits and signs. -/
theorem Item.not_mem {x : List Char} {i j : UInt32} {c : Char} (h : Item x i j) (hdigit : c.isDigit = false)
    (hplus : c ≠ '+') (hminus : c ≠ '-') : c ∉ x := by
  cases h with
  | single h => exact not_mem_of_spells h hdigit hplus
  | span hi hj =>
    intro hc
    rcases List.mem_append.mp hc with hc | hc
    · exact not_mem_of_spells hi hdigit hplus hc
    · rcases List.mem_cons.mp hc with rfl | hc
      · exact hminus rfl
      · exact not_mem_of_spells hj hdigit hplus hc

/-! ### Reading items -/

theorem readIndex_eq_ok_iff {cs : List Char} {i : UInt32} : readIndex cs = .ok i ↔ Spells cs i.toNat := by
  rw [← word32?_eq_some_iff, readIndex]
  cases word32? cs <;> simp

theorem readBounds_single {cs : List Char} {i : UInt32} (h : Spells cs i.toNat) : readBounds cs = .ok (i, i) := by
  rw [readBounds, split_of_not_mem (not_mem_of_spells h rfl (by decide))]
  exact bind_eq_ok_iff.mpr ⟨i, readIndex_eq_ok_iff.mpr h, rfl⟩

theorem readBounds_span {as bs : List Char} {i j : UInt32} (hi : Spells as i.toNat) (hj : Spells bs j.toNat) :
    readBounds (as ++ '-' :: bs) = .ok (i, j) := by
  rw [readBounds, split_append (not_mem_of_spells hi rfl (by decide)),
    split_of_not_mem (not_mem_of_spells hj rfl (by decide))]
  exact bind_eq_ok_iff.mpr ⟨i, readIndex_eq_ok_iff.mpr hi,
    bind_eq_ok_iff.mpr ⟨j, readIndex_eq_ok_iff.mpr hj, rfl⟩⟩

theorem Item.readBounds_eq {x : List Char} {i j : UInt32} (h : Item x i j) : readBounds x = .ok (i, j) := by
  cases h with
  | single h => exact readBounds_single h
  | span hi hj => exact readBounds_span hi hj

theorem Item.unique {x : List Char} {i j i' j' : UInt32} (h : Item x i j) (h' : Item x i' j') : i = i' ∧ j = j' := by
  have hbounds := h.readBounds_eq.symm.trans h'.readBounds_eq
  cases hbounds
  exact ⟨rfl, rfl⟩

/-- Bounds that are in order and not too far apart make an item. -/
theorem item_of_readBounds {x : List Char} {i j : UInt32} (h : readBounds x = .ok (i, j)) (hle : i ≤ j)
    (hwidth : j.toNat - i.toNat ≤ 1023) : Item x i j := by
  rw [readBounds] at h
  split at h
  · rename_i single hsplit
    obtain ⟨-, -, hx⟩ := split_eq_iff.mp hsplit
    obtain ⟨k, hk, hpair⟩ := bind_eq_ok_iff.mp h
    cases hpair
    subst hx
    exact .single (readIndex_eq_ok_iff.mp hk)
  · rename_i first last hsplit
    obtain ⟨-, -, hx⟩ := split_eq_iff.mp hsplit
    obtain ⟨k, hk, h⟩ := bind_eq_ok_iff.mp h
    obtain ⟨l, hl, hpair⟩ := bind_eq_ok_iff.mp h
    cases hpair
    subst hx
    exact .span (readIndex_eq_ok_iff.mp hk) (readIndex_eq_ok_iff.mp hl) hle hwidth
  · cases h

theorem not_isItem_nil : ¬IsItem [] := by
  rintro ⟨i, j, h⟩
  generalize hx : ([] : List Char) = x at h
  cases h with
  | single h =>
    subst hx
    obtain ⟨ds, rfl | hcons, hne, -⟩ := h
    · exact hne rfl
    · cases hcons
  | span => simp at hx

theorem readItem_eq_ok_iff {list x : List Char} {is : List UInt32} :
    readItem list x = .ok is ↔ ∃ i j, Item x i j ∧ is = range i j := by
  rw [readItem]
  by_cases hnil : x = []
  · subst hnil
    rw [if_pos rfl]
    constructor
    · intro h
      cases h
    · rintro ⟨i, j, hx, -⟩
      exact absurd ⟨i, j, hx⟩ not_isItem_nil
  rw [if_neg hnil, bind_eq_ok_iff]
  constructor
  · rintro ⟨⟨i, j⟩, hbounds, h⟩
    dsimp only at h
    split at h
    · cases h
    rename_i hle
    split at h
    · cases h
    rename_i hwidth
    cases h
    rw [maxRangeLength] at hwidth
    exact ⟨i, j, item_of_readBounds hbounds (UInt32.not_lt.mp hle) (by omega), rfl⟩
  · rintro ⟨i, j, hx, rfl⟩
    refine ⟨(i, j), hx.readBounds_eq, ?_⟩
    have hwidth : j.toNat - i.toNat ≤ 1023 := by
      cases hx with
      | single => omega
      | span _ _ _ hwidth => exact hwidth
    dsimp only
    rw [if_neg (UInt32.not_lt.mpr hx.le), if_neg (by rw [maxRangeLength]; omega)]

/-- Reading an item, with a function for the difference of its bounds. -/
def readItemBy (difference : UInt32 → UInt32 → Nat) (list item : List Char) : Except SelectionError (List UInt32) :=
  if item = [] then .error (.emptyItem (String.ofList list))
  else do
    let (first, last) ← readBounds item
    if last < first then .error (.reversedRange first last)
    else
      let width := difference last first
      if maxRangeLength ≤ width then .error (.rangeTooWide first last)
      else .ok ((List.range (width + 1)).map fun k => UInt32.ofNat (first.toNat + k))

/-- The difference is only taken of bounds in order: what stands for one below zero does not matter. -/
theorem readItemBy_eq {difference : UInt32 → UInt32 → Nat}
    (h : ∀ first last, first ≤ last → difference last first = last.toNat - first.toNat) (list item : List Char) :
    readItemBy difference list item = readItem list item := by
  rw [readItemBy, readItem]
  split
  · rfl
  · refine congrArg (readBounds item >>= ·) (funext fun ⟨first, last⟩ => ?_)
    dsimp only
    split
    · rfl
    · rename_i hlt
      rw [h first last (UInt32.not_lt.mp hlt)]
      rfl

/-! ### The indices of an item -/

theorem mem_range {i j k : UInt32} (hij : i ≤ j) : k ∈ range i j ↔ i ≤ k ∧ k ≤ j := by
  have hj : j.toNat < 2 ^ 32 := UInt32.toNat_lt j
  rw [UInt32.le_iff_toNat_le] at hij
  rw [range, List.mem_map, UInt32.le_iff_toNat_le, UInt32.le_iff_toNat_le]
  constructor
  · rintro ⟨n, hn, rfl⟩
    rw [List.mem_range] at hn
    rw [UInt32.toNat_ofNat_of_lt' (by rw [UInt32.size]; omega)]
    omega
  · rintro ⟨hik, hkj⟩
    refine ⟨k.toNat - i.toNat, List.mem_range.mpr (by omega), ?_⟩
    rw [show i.toNat + (k.toNat - i.toNat) = k.toNat by omega]
    exact UInt32.ofNat_toNat

theorem Item.mem_range_iff {x : List Char} {i j k : UInt32} (h : Item x i j) : k ∈ range i j ↔ Covers x k := by
  rw [mem_range h.le]
  constructor
  · intro hk
    exact ⟨i, j, h, hk⟩
  · rintro ⟨i', j', h', hk⟩
    obtain ⟨rfl, rfl⟩ := h.unique h'
    exact hk

theorem mem_insertIndex {i k : UInt32} {is : List UInt32} : k ∈ insertIndex i is ↔ k = i ∨ k ∈ is := by
  induction is with
  | nil => simp [insertIndex]
  | cons j js ih =>
    rw [insertIndex]
    split
    · exact List.mem_cons
    · split
      · rename_i heq
        simp [heq]
      · rw [List.mem_cons, ih, List.mem_cons]
        exact or_left_comm

theorem pairwise_insertIndex {i : UInt32} {is : List UInt32} (h : is.Pairwise (· < ·)) :
    (insertIndex i is).Pairwise (· < ·) := by
  induction is with
  | nil => exact List.pairwise_singleton _ _
  | cons j js ih =>
    obtain ⟨hj, hjs⟩ := List.pairwise_cons.mp h
    rw [insertIndex]
    split
    · rename_i hlt
      refine List.pairwise_cons.mpr ⟨fun k hk => ?_, h⟩
      rcases List.mem_cons.mp hk with rfl | hk
      · exact hlt
      · exact UInt32.lt_trans hlt (hj k hk)
    · split
      · exact h
      · rename_i hlt hne
        refine List.pairwise_cons.mpr ⟨fun k hk => ?_, ih hjs⟩
        rcases mem_insertIndex.mp hk with rfl | hk
        · exact UInt32.lt_of_le_of_ne (UInt32.not_lt.mp hlt) (Ne.symm hne)
        · exact hj k hk

theorem mem_foldl_insertIndex {k : UInt32} (is acc : List UInt32) :
    k ∈ is.foldl (fun js i => insertIndex i js) acc ↔ k ∈ acc ∨ k ∈ is := by
  induction is generalizing acc with
  | nil => simp
  | cons i is ih =>
    rw [List.foldl_cons, ih, mem_insertIndex, List.mem_cons]
    tauto

theorem pairwise_foldl_insertIndex (is : List UInt32) {acc : List UInt32} (h : acc.Pairwise (· < ·)) :
    (is.foldl (fun js i => insertIndex i js) acc).Pairwise (· < ·) := by
  induction is generalizing acc with
  | nil => exact h
  | cons i is ih => exact ih (pairwise_insertIndex h)

/-! ### Reading lists -/

theorem readItems_eq_ok_iff {list : List Char} {items : List (List Char)} {acc is : List UInt32}
    (hacc : acc.Pairwise (· < ·)) :
    readItems list items acc = .ok is ↔
      (∀ x ∈ items, IsItem x) ∧ is.Pairwise (· < ·) ∧ ∀ k, k ∈ is ↔ k ∈ acc ∨ ∃ x ∈ items, Covers x k := by
  induction items generalizing acc with
  | nil =>
    simp only [readItems, Except.ok.injEq, List.not_mem_nil, false_implies, implies_true, true_and, false_and,
      exists_false, or_false]
    constructor
    · rintro rfl
      exact ⟨hacc, fun _ => Iff.rfl⟩
    · rintro ⟨his, hmem⟩
      exact hacc.eq_of_mem_iff his fun k => (hmem k).symm
  | cons x items ih =>
    rw [readItems, bind_eq_ok_iff]
    constructor
    · rintro ⟨js, hjs, h⟩
      obtain ⟨i, j, hx, rfl⟩ := readItem_eq_ok_iff.mp hjs
      obtain ⟨hitems, his, hmem⟩ := (ih (pairwise_foldl_insertIndex _ hacc)).mp h
      refine ⟨List.forall_mem_cons.mpr ⟨⟨i, j, hx⟩, hitems⟩, his, fun k => ?_⟩
      rw [hmem, mem_foldl_insertIndex, hx.mem_range_iff, List.exists_mem_cons_iff, or_assoc]
    · rintro ⟨hitems, his, hmem⟩
      obtain ⟨⟨i, j, hx⟩, hitems⟩ := List.forall_mem_cons.mp hitems
      refine ⟨range i j, readItem_eq_ok_iff.mpr ⟨i, j, hx, rfl⟩, ?_⟩
      refine (ih (pairwise_foldl_insertIndex _ hacc)).mpr ⟨hitems, his, fun k => ?_⟩
      rw [hmem, mem_foldl_insertIndex, hx.mem_range_iff, List.exists_mem_cons_iff, or_assoc]

/-- A list is read as the indices that its items cover. -/
theorem readList_eq_ok_iff {list : List Char} {is : List UInt32} :
    readList list = .ok is ↔
      (∀ x ∈ split ',' list, IsItem x) ∧ is.Pairwise (· < ·) ∧ ∀ k, k ∈ is ↔ ∃ x ∈ split ',' list, Covers x k := by
  rw [readList, readItems_eq_ok_iff List.Pairwise.nil]
  simp only [List.not_mem_nil, false_or]

end SelectionRules
end Telemetry
