import Mathlib.Data.String.Basic
import Telemetry.SortedMap

/-! Maps by what they give. Two maps that give the same for every key are equal, and a map of entries gives for a
    key what the last entry of the key has. -/

namespace Telemetry.SortedMap

variable {α : Type}

/-! ### Equality -/

theorem eq_of_lookup_eq {es es' : List (String × α)} (hes : es.Pairwise fun x y => x.1 < y.1)
    (hes' : es'.Pairwise fun x y => x.1 < y.1) (h : ∀ k, lookup k es = lookup k es') : es = es' := by
  induction es generalizing es' with
  | nil =>
    cases es' with
    | nil => rfl
    | cons e es' => simpa [lookup] using h e.1
  | cons e es ih =>
    cases es' with
    | nil => simpa [lookup] using h e.1
    | cons e' es' =>
      obtain ⟨j, a⟩ := e
      obtain ⟨i, b⟩ := e'
      obtain ⟨hj, hrest⟩ := List.pairwise_cons.mp hes
      obtain ⟨hi, hrest'⟩ := List.pairwise_cons.mp hes'
      -- Of two first keys that differ, the smaller one is not among the entries of the other.
      obtain rfl : j = i := by
        rcases lt_trichotomy j i with hlt | heq | hgt
        · have hnone : lookup j ((i, b) :: es') = none :=
            lookup_eq_none_of_lt (List.forall_mem_cons.mpr ⟨hlt, fun e he => hlt.trans (hi e he)⟩)
          have hkey := h j
          rw [hnone, lookup, if_pos rfl] at hkey
          cases hkey
        · exact heq
        · have hnone : lookup i ((j, a) :: es) = none :=
            lookup_eq_none_of_lt (List.forall_mem_cons.mpr ⟨hgt, fun e he => hgt.trans (hj e he)⟩)
          have hkey := h i
          rw [hnone, lookup, if_pos rfl] at hkey
          cases hkey
      obtain rfl : a = b := by simpa [lookup] using h j
      have htail : es = es' := by
        refine ih hrest hrest' fun k => ?_
        by_cases hk : j = k
        · rw [← hk, lookup_eq_none_of_lt hj, lookup_eq_none_of_lt hi]
        · simpa [lookup, hk] using h k
      rw [htail]

theorem ext_get? {m n : SortedMap α} (h : ∀ k, m.get? k = n.get? k) : m = n :=
  ext (eq_of_lookup_eq m.sorted n.sorted h)

/-! ### Entries -/

theorem lookup_append (k : String) (es es' : List (String × α)) :
    lookup k (es ++ es') = (lookup k es).or (lookup k es') := by
  induction es with
  | nil => rfl
  | cons e es ih =>
    rw [List.cons_append, lookup, lookup, ih]
    split <;> simp

theorem lookup_eq_none_of_forall_ne {k : String} {es : List (String × α)} (h : ∀ e ∈ es, e.1 ≠ k) :
    lookup k es = none := by
  induction es with
  | nil => rfl
  | cons e es ih =>
    obtain ⟨hne, hes⟩ := List.forall_mem_cons.mp h
    rw [lookup, if_neg hne, ih hes]

/-- Where no key comes again, the order of the entries is no matter. -/
theorem lookup_reverse (k : String) {es : List (String × α)} (h : (es.map Prod.fst).Nodup) :
    lookup k es.reverse = lookup k es := by
  induction es with
  | nil => rfl
  | cons e es ih =>
    obtain ⟨hnot, hes⟩ := List.nodup_cons.mp h
    rw [List.reverse_cons, lookup_append, ih hes]
    by_cases hk : e.1 = k
    · have hnone : lookup k es = none :=
        lookup_eq_none_of_forall_ne fun x hx hxk => hnot (List.mem_map.mpr ⟨x, hx, hxk.trans hk.symm⟩)
      rw [hnone, lookup, if_pos hk, lookup, if_pos hk]
      rfl
    · rw [lookup, if_neg hk, lookup, Option.or_none, lookup, if_neg hk]

/-! ### Maps of entries -/

theorem get?_foldl_insert (es : List (String × α)) (m : SortedMap α) (k : String) :
    (es.foldl (fun m e => m.insert e.1 e.2) m).get? k = ((ofList es).get? k).or (m.get? k) := by
  induction es generalizing m with
  | nil => rfl
  | cons e es ih =>
    have hcons : (ofList (e :: es)).get? k = ((ofList es).get? k).or ((empty.insert e.1 e.2).get? k) := ih _
    rw [List.foldl_cons, ih, hcons, Option.or_assoc, get?_insert, get?_insert, get?_empty]
    split <;> simp

/-- Later entries count before earlier ones. -/
theorem get?_ofList_append (es es' : List (String × α)) (k : String) :
    (ofList (es ++ es')).get? k = ((ofList es').get? k).or ((ofList es).get? k) := by
  rw [ofList, List.foldl_append, get?_foldl_insert]
  rfl

theorem get?_ofList (es : List (String × α)) (k : String) : (ofList es).get? k = lookup k es.reverse := by
  induction es with
  | nil => rfl
  | cons e es ih =>
    have hcons : (ofList (e :: es)).get? k = ((ofList es).get? k).or ((ofList [e]).get? k) :=
      get?_ofList_append [e] es k
    have hsingle : (ofList [e]).get? k = lookup k [e] := by simp [ofList, lookup]
    rw [hcons, hsingle, ih, List.reverse_cons, lookup_append]

theorem nodup_keys (m : SortedMap α) : (m.entries.map Prod.fst).Nodup :=
  List.pairwise_map.mpr (m.sorted.imp fun h => ne_of_lt h)

/-- The map of the entries of a map is the map. -/
theorem ofList_entries (m : SortedMap α) : ofList m.entries = m :=
  ext_get? fun k => (get?_ofList m.entries k).trans (lookup_reverse k m.nodup_keys)

/-- Under each of some keys that all have one value. -/
theorem get?_ofList_map (ks : List String) (a : α) (k : String) :
    (ofList (ks.map (·, a))).get? k = if k ∈ ks then some a else none := by
  induction ks with
  | nil => rfl
  | cons j ks ih =>
    have hcons : (ofList ((j :: ks).map (·, a))).get? k =
        ((ofList (ks.map (·, a))).get? k).or ((ofList [(j, a)]).get? k) :=
      get?_ofList_append [(j, a)] (ks.map (·, a)) k
    have hsingle : (ofList [(j, a)]).get? k = if j = k then some a else none := by simp [ofList]
    rw [hcons, hsingle, ih]
    by_cases hmem : k ∈ ks
    · simp [hmem]
    · by_cases hk : j = k
      · simp [hk, hmem]
      · simp [hmem, hk, Ne.symm hk]

/-- Of groups of keys that each have one value, the last group that has the key counts. -/
theorem get?_ofList_flatMap {γ : Type} (gs : List γ) (keys : γ → List String) (value : γ → α) (k : String) :
    (ofList (gs.flatMap fun g => (keys g).map (·, value g))).get? k =
      (gs.reverse.find? fun g => k ∈ keys g).map value := by
  induction gs with
  | nil => rfl
  | cons g gs ih =>
    rw [List.flatMap_cons, get?_ofList_append, ih, get?_ofList_map, List.reverse_cons, List.find?_append]
    cases hfound : gs.reverse.find? fun g => k ∈ keys g with
    | some g' => simp
    | none => by_cases hk : k ∈ keys g <;> simp [hk]

end Telemetry.SortedMap
