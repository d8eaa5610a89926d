import Telemetry.Numeral

/-! What decimal numerals are read as. A row of digits has the value that the digits spell, whatever its
    leading zeros, and anything else has none; so the digits of a number are read as the number. The text of a
    number has only its digits, and no two numbers have the same. -/

namespace Telemetry
namespace Numeral

theorem digitValue?_ten_of_isDigit {c : Char} (h : c.isDigit = true) :
    digitValue? 10 c = some (c.toNat - '0'.toNat) := by
  have hdigit := Char.isDigit_iff_toNat.mp h
  have hlow : 48 ≤ c.toNat := hdigit.1
  have hhigh : c.toNat ≤ 57 := hdigit.2
  have hzero : '0'.toNat = 48 := rfl
  simp [digitValue?, hlow, hhigh, hzero, Option.filter]
  omega

theorem digitValue?_ten_eq_none {c : Char} (h : c.isDigit = false) : digitValue? 10 c = none := by
  have hdigit : ¬(48 ≤ c.toNat ∧ c.toNat ≤ 57) := fun hc => by
    have htrue : c.isDigit = true := Char.isDigit_iff_toNat.mpr hc
    rw [h] at htrue
    cases htrue
  simp only [digitValue?, Bool.and_eq_true, decide_eq_true_eq]
  rw [if_neg hdigit]
  split
  · simp [Option.filter]
    omega
  · split
    · simp [Option.filter]
      omega
    · rfl

theorem mapM_digitValue?_of_isDigit {cs : List Char} (h : ∀ c ∈ cs, c.isDigit = true) :
    cs.mapM (digitValue? 10) = some (cs.map fun c => c.toNat - '0'.toNat) := by
  induction cs with
  | nil => rfl
  | cons c cs ih =>
    rw [List.mapM_cons, digitValue?_ten_of_isDigit (h c List.mem_cons_self),
      ih fun x hx => h x (List.mem_cons_of_mem c hx)]
    rfl

theorem isDigit_of_mapM_digitValue? {cs : List Char} {ds : List Nat} (h : cs.mapM (digitValue? 10) = some ds) :
    ∀ c ∈ cs, c.isDigit = true := by
  induction cs generalizing ds with
  | nil => simp
  | cons c cs ih =>
    rw [List.mapM_cons] at h
    obtain ⟨d, hd, h⟩ := Option.bind_eq_some_iff.mp h
    obtain ⟨rest, hrest, -⟩ := Option.bind_eq_some_iff.mp h
    intro x hx
    rcases List.mem_cons.mp hx with rfl | hx
    · cases hdigit : x.isDigit with
      | true => rfl
      | false =>
        rw [digitValue?_ten_eq_none hdigit] at hd
        cases hd
    · exact ih hrest x hx

theorem ofDigitValues_map (cs : List Char) :
    ofDigitValues 10 (cs.map fun c => c.toNat - '0'.toNat) = Nat.ofDigitChars 10 cs 0 := by
  rw [ofDigitValues, List.foldl_map, Nat.ofDigitChars_eq_foldl]
  simp only [Nat.mul_comm 10]

/-- A row of characters has a value if it has digits and nothing else. -/
theorem natural?_ten_eq_some_iff {cs : List Char} {n : Nat} :
    natural? 10 cs = some n ↔ cs ≠ [] ∧ (∀ c ∈ cs, c.isDigit = true) ∧ Nat.ofDigitChars 10 cs 0 = n := by
  cases cs with
  | nil => simp [natural?]
  | cons c cs =>
    rw [natural?, List.isEmpty_cons, if_neg Bool.false_ne_true, Option.map_eq_some_iff]
    constructor
    · rintro ⟨ds, hds, rfl⟩
      have hdigits := isDigit_of_mapM_digitValue? hds
      rw [mapM_digitValue?_of_isDigit hdigits] at hds
      cases hds
      exact ⟨List.cons_ne_nil c cs, hdigits, (ofDigitValues_map _).symm⟩
    · rintro ⟨-, hdigits, rfl⟩
      exact ⟨_, mapM_digitValue?_of_isDigit hdigits, ofDigitValues_map _⟩

/-- At least one digit, behind an optional plus, that spell the number. -/
def Spells (cs : List Char) (n : Nat) : Prop :=
  ∃ ds, (cs = ds ∨ cs = '+' :: ds) ∧ ds ≠ [] ∧ (∀ c ∈ ds, c.isDigit = true) ∧ Nat.ofDigitChars 10 ds 0 = n

theorem unsigned?_ten_eq_some_iff {cs : List Char} {n : Nat} : unsigned? 10 cs = some n ↔ Spells cs n := by
  unfold unsigned?
  split
  · rename_i ds
    rw [natural?_ten_eq_some_iff]
    constructor
    · rintro ⟨hne, hdigits, hvalue⟩
      exact ⟨ds, Or.inr rfl, hne, hdigits, hvalue⟩
    · rintro ⟨es, rfl | hcons, hne, hdigits, hvalue⟩
      · have hplus := hdigits '+' List.mem_cons_self
        simp [Char.isDigit] at hplus
      · cases hcons
        exact ⟨hne, hdigits, hvalue⟩
  · rename_i hplus
    rw [natural?_ten_eq_some_iff]
    constructor
    · rintro ⟨hne, hdigits, hvalue⟩
      exact ⟨_, Or.inl rfl, hne, hdigits, hvalue⟩
    · rintro ⟨ds, rfl | hcons, hne, hdigits, hvalue⟩
      · exact ⟨hne, hdigits, hvalue⟩
      · exact absurd hcons (hplus ds)

/-- A word of 32 bits is read exactly where a numeral spells its value. -/
theorem word32?_eq_some_iff {cs : List Char} {i : UInt32} : word32? cs = some i ↔ Spells cs i.toNat := by
  rw [word32?, Option.map_eq_some_iff]
  constructor
  · rintro ⟨n, hn, rfl⟩
    obtain ⟨hn, hlt⟩ := Option.filter_eq_some_iff.mp hn
    have hlt : n < 2 ^ 32 := of_decide_eq_true hlt
    rw [UInt32.toNat_ofNat_of_lt' hlt]
    exact unsigned?_ten_eq_some_iff.mp hn
  · intro h
    refine ⟨i.toNat, Option.filter_eq_some_iff.mpr ⟨unsigned?_ten_eq_some_iff.mpr h, ?_⟩, UInt32.ofNat_toNat⟩
    exact decide_eq_true (UInt32.toNat_lt i)

theorem Spells.unique {cs : List Char} {m n : Nat} (hm : Spells cs m) (hn : Spells cs n) : m = n := by
  rw [← unsigned?_ten_eq_some_iff] at hm hn
  exact Option.some.inj (hm.symm.trans hn)

theorem Spells.isDigit_or_plus {cs : List Char} {n : Nat} (h : Spells cs n) :
    ∀ c ∈ cs, c.isDigit = true ∨ c = '+' := by
  obtain ⟨ds, rfl | rfl, -, hdigits, -⟩ := h
  · exact fun c hc => Or.inl (hdigits c hc)
  · intro c hc
    rcases List.mem_cons.mp hc with rfl | hc
    · exact Or.inr rfl
    · exact Or.inl (hdigits c hc)

theorem spells_toDigits (n : Nat) : Spells (Nat.toDigits 10 n) n :=
  ⟨_, Or.inl rfl, Nat.toDigits_ne_nil, fun _ hc => Nat.isDigit_of_mem_toDigits (by decide) (by decide) hc,
    Nat.ofDigitChars_ten_toDigits⟩

/-! ### Texts of words -/

theorem toList_toString (i : UInt32) : (toString i).toList = Nat.toDigits 10 i.toNat := String.toList_ofList

theorem isDigit_of_mem_toString {i : UInt32} {c : Char} (h : c ∈ (toString i).toList) : c.isDigit = true := by
  rw [toList_toString] at h
  exact Nat.isDigit_of_mem_toDigits (by decide) (by decide) h

theorem toString_inj {i j : UInt32} : toString i = toString j ↔ i = j := by
  constructor
  · intro h
    have htext : Nat.toDigits 10 i.toNat = Nat.toDigits 10 j.toNat := by
      rw [← toList_toString, ← toList_toString, h]
    exact UInt32.toNat_inj.mp ((spells_toDigits i.toNat).unique (htext ▸ spells_toDigits j.toNat))
  · rintro rfl
    rfl

end Numeral
end Telemetry
