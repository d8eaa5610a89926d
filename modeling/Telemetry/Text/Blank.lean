/-! Blank characters: the white space of Unicode, and what is left of a text once it is trimmed.
    Trimming takes blanks off both ends and nothing from the middle. -/

namespace Telemetry
namespace Text

/-- The characters with the Unicode property `White_Space`. -/
def isBlank (c : Char) : Bool :=
  let n := c.toNat
  (9 ≤ n && n ≤ 13) || n == 0x20 || n == 0x85 || n == 0xa0 || n == 0x1680 || (0x2000 ≤ n && n ≤ 0x200a) ||
    n == 0x2028 || n == 0x2029 || n == 0x202f || n == 0x205f || n == 0x3000

/-- The characters without the blanks before the first character that is not blank. -/
def trimLeft (cs : List Char) : List Char := cs.dropWhile isBlank

/-- The characters without the blanks behind the last character that is not blank. -/
def trimRight (cs : List Char) : List Char := (cs.reverse.dropWhile isBlank).reverse

/-- The characters without the blanks at either end. -/
def trim (cs : List Char) : List Char := trimRight (trimLeft cs)

/-- A text without the blanks at either end. -/
def trimmed (s : String) : String := String.ofList (trim s.toList)

/-! ### What trimming does -/

/-- Trimming leaves a text without blanks as it is. -/
theorem trim_of_forall {cs : List Char} (h : ∀ c ∈ cs, isBlank c = false) : trim cs = cs := by
  have hdrop : ∀ {l : List Char}, (∀ c ∈ l, isBlank c = false) → l.dropWhile isBlank = l := by
    intro l hl
    cases l with
    | nil => rfl
    | cons c r => rw [List.dropWhile_cons_of_neg (by simp [hl c List.mem_cons_self])]
  rw [trim, trimLeft, hdrop h, trimRight, hdrop fun c hc => h c (List.mem_reverse.mp hc), List.reverse_reverse]

theorem trimLeft_append {blanks : List Char} (h : ∀ c ∈ blanks, isBlank c = true) (cs : List Char) :
    trimLeft (blanks ++ cs) = trimLeft cs := List.dropWhile_append_of_pos h

theorem trimRight_append {blanks : List Char} (h : ∀ c ∈ blanks, isBlank c = true) (cs : List Char) :
    trimRight (cs ++ blanks) = trimRight cs := by
  have hreverse : ∀ c ∈ blanks.reverse, isBlank c = true := fun c hc => h c (List.mem_reverse.mp hc)
  rw [trimRight, List.reverse_append, List.dropWhile_append_of_pos hreverse, trimRight]

/-- Blanks are taken off the end only, so that a first character that is not blank stays the first. -/
theorem exists_trimRight_cons {c : Char} (h : isBlank c = false) (cs : List Char) :
    ∃ r, trimRight (c :: cs) = c :: r := by
  rw [trimRight, List.reverse_cons, List.dropWhile_append]
  split
  · exact ⟨[], by simp [h]⟩
  · exact ⟨_, List.reverse_append⟩

/-- Neither end is blank. -/
def Unpadded (cs : List Char) : Prop :=
  (∀ c ∈ cs.head?, isBlank c = false) ∧ ∀ c ∈ cs.getLast?, isBlank c = false

instance (cs : List Char) : Decidable (Unpadded cs) :=
  decidable_of_iff ((cs.head?.all fun c => !isBlank c) = true ∧ (cs.getLast?.all fun c => !isBlank c) = true) <| by
    simp [Unpadded, Option.all_eq_true]

theorem trimLeft_of_unpadded {cs : List Char} (h : Unpadded cs) (rest : List Char) (hne : cs ≠ []) :
    trimLeft (cs ++ rest) = cs ++ rest := by
  obtain ⟨c, cs, rfl⟩ := List.exists_cons_of_ne_nil hne
  exact List.dropWhile_cons_of_neg (by simp [h.1 c rfl])

theorem trimRight_of_unpadded {cs : List Char} (h : Unpadded cs) : trimRight cs = cs := by
  rcases List.eq_nil_or_concat cs with rfl | ⟨r, c, rfl⟩
  · rfl
  · have hc : isBlank c = false := h.2 c (by simp)
    rw [trimRight, List.concat_eq_append, List.reverse_concat, List.dropWhile_cons_of_neg (by simp [hc]),
      List.reverse_cons, List.reverse_reverse]

/-- Trimming gives a text back from the blanks around it. -/
theorem trim_padded {before cs after : List Char} (hbefore : ∀ c ∈ before, isBlank c = true) (h : Unpadded cs)
    (hafter : ∀ c ∈ after, isBlank c = true) : trim (before ++ cs ++ after) = cs := by
  rw [trim, List.append_assoc, trimLeft_append hbefore]
  by_cases hne : cs = []
  · rw [hne, List.nil_append, ← List.append_nil after, trimLeft_append hafter]
    rfl
  · rw [trimLeft_of_unpadded h after hne, trimRight_append hafter, trimRight_of_unpadded h]

end Text
end Telemetry
