/-! Cutting a text at every occurrence of a separator, and joining pieces with it. A text always has
    at least one piece, and pieces without the separator come back as they were joined; so do lines,
    each of which ends with a newline. -/

namespace Telemetry
namespace Text

/-- The pieces between the occurrences of `sep`. -/
def split (sep : Char) : List Char → List (List Char)
  | [] => [[]]
  | c :: cs =>
    if c = sep then [] :: split sep cs
    else
      match split sep cs with
      | [] => [[c]]
      | p :: ps => (c :: p) :: ps

/-- The pieces with `sep` between each two of them. -/
def join (sep : Char) : List (List Char) → List Char
  | [] => []
  | [p] => p
  | p :: ps => p ++ sep :: join sep ps

/-- The lines, each with a newline behind it. -/
def unlines (ls : List (List Char)) : List Char := ls.flatMap (· ++ ['\n'])

theorem split_ne_nil (sep : Char) (cs : List Char) : split sep cs ≠ [] := by
  cases cs with
  | nil => simp [split]
  | cons c cs =>
    unfold split
    split
    · simp
    · split <;> simp

theorem split_of_not_mem {sep : Char} {p : List Char} (h : sep ∉ p) : split sep p = [p] := by
  induction p with
  | nil => rfl
  | cons c cs ih =>
    have hc : c ≠ sep := fun e => h (by simp [e])
    rw [split, if_neg hc, ih fun hm => h (List.mem_cons_of_mem _ hm)]

theorem split_append {sep : Char} {p : List Char} (h : sep ∉ p) (rest : List Char) :
    split sep (p ++ sep :: rest) = p :: split sep rest := by
  induction p with
  | nil => simp [split]
  | cons c cs ih =>
    have hc : c ≠ sep := fun e => h (by simp [e])
    rw [List.cons_append, split, if_neg hc, ih fun hm => h (List.mem_cons_of_mem _ hm)]

theorem split_join {sep : Char} {ps : List (List Char)} (hne : ps ≠ []) (h : ∀ p ∈ ps, sep ∉ p) :
    split sep (join sep ps) = ps := by
  induction ps with
  | nil => exact absurd rfl hne
  | cons p ps ih =>
    cases ps with
    | nil => exact split_of_not_mem (h p (by simp))
    | cons q qs =>
      rw [join, split_append (h p (by simp)), ih (by simp) fun x hx => h x (List.mem_cons_of_mem _ hx)]
      simp

theorem join_cons {sep : Char} {ps : List (List Char)} (h : ps ≠ []) (p : List Char) :
    join sep (p :: ps) = p ++ sep :: join sep ps := by
  cases ps with
  | nil => exact absurd rfl h
  | cons q qs => rfl

theorem not_mem_join {sep c : Char} {ps : List (List Char)} (hsep : c ≠ sep) (h : ∀ p ∈ ps, c ∉ p) :
    c ∉ join sep ps := by
  induction ps with
  | nil => exact List.not_mem_nil
  | cons p ps ih =>
    have hp := h p List.mem_cons_self
    have hrest := ih fun q hq => h q (List.mem_cons_of_mem p hq)
    cases ps with
    | nil => exact hp
    | cons q qs =>
      rw [join_cons (List.cons_ne_nil q qs), List.mem_append, List.mem_cons]
      exact not_or.mpr ⟨hp, not_or.mpr ⟨hsep, hrest⟩⟩

theorem join_split (sep : Char) (cs : List Char) : join sep (split sep cs) = cs := by
  induction cs with
  | nil => rfl
  | cons c cs ih =>
    rw [split]
    split
    · rename_i hc
      rw [join_cons (split_ne_nil sep cs), ih, hc, List.nil_append]
    · split
      · rename_i hnil
        exact absurd hnil (split_ne_nil sep cs)
      · rename_i p ps hcons
        rw [hcons] at ih
        cases ps with
        | nil => exact congrArg (c :: ·) ih
        | cons q qs => exact congrArg (c :: ·) ih

theorem not_mem_of_mem_split {sep : Char} {cs p : List Char} (h : p ∈ split sep cs) : sep ∉ p := by
  induction cs generalizing p with
  | nil => simp [List.mem_singleton.mp h]
  | cons c cs ih =>
    rw [split] at h
    split at h
    · rcases List.mem_cons.mp h with rfl | h
      · exact List.not_mem_nil
      · exact ih h
    · rename_i hc
      split at h
      · rename_i hnil
        exact absurd hnil (split_ne_nil sep cs)
      · rename_i q qs hcons
        rcases List.mem_cons.mp h with rfl | h
        · have hq : sep ∉ q := ih (by simp [hcons])
          simpa [List.mem_cons, Ne.symm hc] using hq
        · exact ih (by simp [hcons, h])

/-- The pieces are those without the separator that the text is joined from. -/
theorem split_eq_iff {sep : Char} {cs : List Char} {ps : List (List Char)} :
    split sep cs = ps ↔ ps ≠ [] ∧ (∀ p ∈ ps, sep ∉ p) ∧ join sep ps = cs := by
  constructor
  · rintro rfl
    exact ⟨split_ne_nil sep cs, fun p hp => not_mem_of_mem_split hp, join_split sep cs⟩
  · rintro ⟨hne, hp, rfl⟩
    exact split_join hne hp

theorem split_unlines {ls : List (List Char)} (h : ∀ l ∈ ls, '\n' ∉ l) : split '\n' (unlines ls) = ls ++ [[]] := by
  induction ls with
  | nil => rfl
  | cons l ls ih =>
    have hl : '\n' ∉ l := h l List.mem_cons_self
    have hls : ∀ x ∈ ls, '\n' ∉ x := fun x hx => h x (List.mem_cons_of_mem _ hx)
    have hcons : unlines (l :: ls) = l ++ '\n' :: unlines ls := by simp [unlines]
    rw [hcons, split_append hl, ih hls, List.cons_append]

end Text
end Telemetry
