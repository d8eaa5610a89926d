import Mathlib.Data.List.Basic

/-! Places by keys. A look-up that gives the place of every key in a list, and of no other key, keeps
    to it when the list and the look-up grow together, and shows that no key comes twice. -/

namespace Telemetry

/-- The look-up finds every one of the keys at its place, and nothing else. -/
def Indexes {κ : Type} (find : κ → Option Nat) (keys : List κ) : Prop :=
  ∀ k i, find k = some i ↔ keys[i]? = some k

namespace Indexes
variable {κ α : Type} {find find' : κ → Option Nat} {keys : List κ} {k : κ} {i : Nat}

theorem nil : Indexes (fun _ : κ => none) [] := fun _ _ => by simp

theorem lt_length (h : Indexes find keys) (hf : find k = some i) : i < keys.length :=
  (List.getElem?_eq_some_iff.mp ((h k i).mp hf)).1

theorem isSome_iff (h : Indexes find keys) : (find k).isSome = true ↔ k ∈ keys := by
  rw [Option.isSome_iff_exists, List.mem_iff_getElem?]
  exact exists_congr fun i => h k i

theorem eq_none_iff (h : Indexes find keys) : find k = none ↔ k ∉ keys := by
  rw [← h.isSome_iff, Bool.not_eq_true, Option.isSome_eq_false_iff, Option.isNone_iff_eq_none]

theorem nodup (h : Indexes find keys) : keys.Nodup := by
  refine List.pairwise_iff_getElem.mpr fun i j hi hj hij heq => ?_
  have hki : find keys[i] = some i := (h _ _).mpr (List.getElem?_eq_getElem hi)
  have hkj : find keys[i] = some j := (h _ _).mpr (by rw [List.getElem?_eq_getElem hj, heq])
  rw [hki] at hkj
  cases hkj
  exact Nat.lt_irrefl _ hij

/-- A new key goes to the end of the list. -/
theorem append [DecidableEq κ] (h : Indexes find keys) (hk : find k = none)
    (hfind : ∀ j, find' j = if k = j then some keys.length else find j) : Indexes find' (keys ++ [k]) := by
  intro j i
  rw [hfind, List.getElem?_append]
  by_cases hj : k = j
  · subst hj
    have hnot : k ∉ keys := h.eq_none_iff.mp hk
    constructor
    · intro hi
      obtain rfl : keys.length = i := by simpa using hi
      simp
    · intro hi
      split at hi
      · exact absurd (List.mem_of_getElem? hi) hnot
      · obtain ⟨hlt, -⟩ := List.getElem?_eq_some_iff.mp hi
        simp only [List.length_singleton] at hlt
        rw [if_pos rfl, show i = keys.length by omega]
  · rw [if_neg hj, h j i]
    split
    · rfl
    · rename_i hi
      rw [List.getElem?_eq_none (by omega), List.getElem?_singleton]
      split <;> simp [hj]

/-- What changes the element at the place of a key changes the elements with that key. -/
theorem modify_eq_map [DecidableEq κ] {key : α → κ} {l : List α} (h : Indexes find (l.map key))
    (hf : find k = some i) (f : α → α) : l.modify i f = l.map fun x => if key x = k then f x else x := by
  refine List.ext_getElem? fun j => ?_
  rw [List.getElem?_modify, List.getElem?_map]
  cases hx : l[j]? with
  | none => simp
  | some x =>
    have hj : find (key x) = some j := (h _ _).mpr (by rw [List.getElem?_map, hx, Option.map_some])
    by_cases hk : key x = k
    · rw [hk, hf] at hj
      cases hj
      simp [hk]
    · have hij : i ≠ j := by
        rintro rfl
        have hi := (h k i).mp hf
        rw [List.getElem?_map, hx, Option.map_some] at hi
        exact hk (Option.some.inj hi)
      simp [hk, hij]

/-- A key leads to the one element that has it. -/
theorem bind_getElem?_eq_some_iff {key : α → κ} {l : List α} (h : Indexes find (l.map key)) {x : α} :
    ((find k).bind fun i => l[i]?) = some x ↔ x ∈ l ∧ key x = k := by
  rw [Option.bind_eq_some_iff, List.mem_iff_getElem?]
  constructor
  · rintro ⟨i, hi, hx⟩
    have hk := (h k i).mp hi
    rw [List.getElem?_map, hx, Option.map_some] at hk
    exact ⟨⟨i, hx⟩, Option.some.inj hk⟩
  · rintro ⟨⟨i, hx⟩, rfl⟩
    exact ⟨i, (h _ _).mpr (by rw [List.getElem?_map, hx, Option.map_some]), hx⟩

end Indexes

/-! ### Places -/

/-- The places of the elements with a property. -/
def places {α : Type} (p : α → Bool) (l : List α) : List Nat := (l.zipIdx.filter fun x => p x.1).map Prod.snd

section Places
variable {α β : Type} {p : α → Bool} {l : List α}

theorem places_concat (x : α) : places p (l ++ [x]) = places p l ++ if p x then [l.length] else [] := by
  rw [places, List.zipIdx_append, List.filter_append, List.map_append]
  cases h : p x <;> simp [places, h]

theorem lt_length_of_mem_places {i : Nat} (h : i ∈ places p l) : i < l.length := by
  obtain ⟨x, hx, rfl⟩ := List.mem_map.mp h
  have hlt := List.snd_lt_of_mem_zipIdx (List.mem_of_mem_filter hx)
  omega

theorem places_eq_nil (h : ∀ x ∈ l, p x = false) : places p l = [] := by
  rw [places, List.map_eq_nil_iff, List.filter_eq_nil_iff]
  intro x hx
  rw [h x.1 (List.fst_mem_of_mem_zipIdx hx)]
  exact Bool.false_ne_true

theorem places_map (p : β → Bool) (f : α → β) (l : List α) : places p (l.map f) = places (fun x => p (f x)) l := by
  rw [places, List.zipIdx_map, List.filter_map, List.map_map]
  rfl

/-- Going back from the places gives the elements. -/
theorem filterMap_places (p : α → Bool) (l : List α) : (places p l).filterMap (fun i => l[i]?) = l.filter p := by
  have hback : ∀ x ∈ l.zipIdx.filter fun x => p x.1, l[x.2]? = some x.1 := fun x hx =>
    List.mem_zipIdx_iff_getElem?.mp (List.mem_of_mem_filter hx)
  have hfst : (l.zipIdx.filter fun x => p x.1).map Prod.fst = l.filter p := by
    rw [← List.zipIdx_map_fst 0 l, List.filter_map, List.zipIdx_map_fst]
    rfl
  rw [places, List.filterMap_map, List.filterMap_congr (g := fun x => some x.1) hback, List.filterMap_eq_map']
  exact hfst

theorem map_modify {g : α → β} {f : α → α} {k : β → β} (h : ∀ x, g (f x) = k (g x)) (l : List α) (i : Nat) :
    (l.modify i f).map g = (l.map g).modify i k := by
  refine List.ext_getElem? fun j => ?_
  rw [List.getElem?_map, List.getElem?_modify, List.getElem?_modify, List.getElem?_map]
  cases l[j]? with
  | none => rfl
  | some x => by_cases hij : i = j <;> simp [hij, h]

theorem map_modify_of_eq {g : α → β} {f : α → α} (h : ∀ x, g (f x) = g x) (l : List α) (i : Nat) :
    (l.modify i f).map g = l.map g := by
  rw [map_modify (k := id) h, List.modify_id]

end Places

/-! ### Division by keys -/

theorem perm_flatMap_filter {α κ : Type} [DecidableEq κ] {key : α → κ} {ks : List κ} (hks : ks.Nodup) :
    ∀ {l : List α}, (∀ x ∈ l, key x ∈ ks) → (ks.flatMap fun k => l.filter fun x => key x = k).Perm l := by
  induction ks with
  | nil =>
    intro l hl
    rw [List.eq_nil_iff_forall_not_mem.mpr fun x hx => List.not_mem_nil (hl x hx)]
    exact List.Perm.refl _
  | cons k ks ih =>
    intro l hl
    obtain ⟨hk, hks⟩ := List.nodup_cons.mp hks
    -- The elements of the other keys are the elements of these keys among those without the first key.
    have hrest : (ks.flatMap fun j => l.filter fun x => key x = j) =
        ks.flatMap fun j => (l.filter fun x => !decide (key x = k)).filter fun x => key x = j := by
      refine List.flatMap_congr fun j hj => ?_
      rw [List.filter_filter]
      refine List.filter_congr fun x _ => ?_
      by_cases hx : key x = j
      · have hne : key x ≠ k := fun e => hk (e ▸ hx ▸ hj)
        simp [hx, hx ▸ hne]
      · simp [hx]
    rw [List.flatMap_cons, hrest]
    refine ((ih hks fun x hx => ?_).append_left _).trans (List.filter_append_perm _ l)
    obtain ⟨hx, hne⟩ := List.mem_filter.mp hx
    exact (List.mem_cons.mp (hl x hx)).resolve_left (by simpa using hne)

end Telemetry
