import Telemetry.Proofs.Catalog.Rows
import Telemetry.Proofs.Csv.Spelling

/-! Catalogs as bytes. The bytes of a text are read as the text is: bytes beyond ASCII have no meaning for the reader
    of records, and the blanks that are cut off bytes are cut off texts, too. So there is one rule for all bytes,
    whether they are a text or not. -/

namespace Telemetry
namespace Text

/-- The bytes of some characters. -/
def bytesOf (cs : List Char) : List UInt8 := cs.flatMap String.utf8EncodeChar

theorem encode_eq (s : String) : encode s = bytesOf s.toList := by
  have hbytes : s.toByteArray = s.toList.utf8Encode := by
    rw [← String.toByteArray_ofList, String.ofList_toList]
  show s.toByteArray.data.toList = _
  rw [hbytes, List.utf8Encode, bytesOf, List.toList_data_toByteArray]

theorem decode?_bytesOf (cs : List Char) : decode? (bytesOf cs) = some (String.ofList cs) := by
  rw [← decode?_encode (String.ofList cs), encode_eq, String.toList_ofList]

theorem eq_bytesOf_of_decode? {bytes : List UInt8} {s : String} (h : decode? bytes = some s) :
    bytes = bytesOf s.toList := by
  rw [decode?, String.fromUTF8?] at h
  split at h
  · cases h
    rw [← encode_eq]
    rfl
  · cases h

theorem utf8EncodeChar_of_le {c : Char} (h : c.toNat ≤ 127) : String.utf8EncodeChar c = [UInt8.ofNat c.toNat] := if_pos h

/-- The bytes of a character beyond ASCII. -/
theorem le_of_mem_utf8EncodeChar {c : Char} (h : 127 < c.toNat) {b : UInt8} (hb : b ∈ String.utf8EncodeChar c) :
    128 ≤ b.toNat := by
  have hle : ¬ c.val.toNat ≤ 127 := Nat.not_le_of_lt h
  simp only [String.utf8EncodeChar, if_neg hle] at hb
  split at hb
  · simp only [List.mem_cons, List.not_mem_nil, or_false] at hb
    rcases hb with rfl | rfl <;> simp only [UInt8.toNat_ofNat'] <;> omega
  · split at hb
    · simp only [List.mem_cons, List.not_mem_nil, or_false] at hb
      rcases hb with rfl | rfl | rfl <;> simp only [UInt8.toNat_ofNat'] <;> omega
    · simp only [List.mem_cons, List.not_mem_nil, or_false] at hb
      rcases hb with rfl | rfl | rfl | rfl <;> simp only [UInt8.toNat_ofNat'] <;> omega

theorem utf8EncodeChar_ne_nil (c : Char) : String.utf8EncodeChar c ≠ [] := by
  rw [← List.length_pos_iff, String.length_utf8EncodeChar]
  exact c.utf8Size_pos

end Text

namespace Catalog
open Csv (symbolOfChar)
open Text

/-! ### Symbols -/

theorem symbolOfChar_of_lt {c : Char} (h : 127 < c.toNat) : symbolOfChar c = .plain := by
  unfold symbolOfChar
  split <;> first | rfl | exact absurd h (by decide)

theorem symbolOfByte_of_le {b : UInt8} (h : 128 ≤ b.toNat) : symbolOfByte b = .plain := by
  have hlt : b.toNat < 256 := b.toNat_lt
  have hvalid : b.toNat.isValidChar := .inl (by omega)
  have hnat : (Char.ofNat b.toNat).toNat = b.toNat := by
    rw [Char.ofNat, dif_pos hvalid]
    rfl
  exact symbolOfChar_of_lt (by omega)

/-- Bytes spell characters. -/
theorem spells_bytes : Csv.Spells symbolOfChar symbolOfByte String.utf8EncodeChar := by
  intro c
  by_cases hc : c.toNat ≤ 127
  · refine .inl ⟨_, utf8EncodeChar_of_le hc, ?_⟩
    rw [symbolOfByte, UInt8.toNat_ofNat', Nat.mod_eq_of_lt (by omega), Char.ofNat_toNat]
  · have hlt : 127 < c.toNat := Nat.lt_of_not_le hc
    exact .inr ⟨symbolOfChar_of_lt hlt, utf8EncodeChar_ne_nil c,
      fun b hb => symbolOfByte_of_le (le_of_mem_utf8EncodeChar hlt hb)⟩

/-! ### Fields -/

/-- The blanks that are cut off bytes. -/
def isBlankAscii (c : Char) : Bool := c.toNat ≤ 127 && isBlankByte (UInt8.ofNat c.toNat)

theorem isBlankByte_eq_false {b : UInt8} (h : 128 ≤ b.toNat) : isBlankByte b = false := by
  rw [Bool.eq_false_iff]
  intro hblank
  simp only [isBlankByte, Bool.or_eq_true, beq_iff_eq] at hblank
  rcases hblank with (((rfl | rfl) | rfl) | rfl) | rfl <;> exact absurd h (by decide)

theorem isBlank_of_isBlankAscii {c : Char} (h : isBlankAscii c = true) : isBlank c = true := by
  have hall : ∀ n ≤ 127, isBlankByte (UInt8.ofNat n) = true → isBlank (Char.ofNat n) = true := by decide +kernel
  obtain ⟨hle, hblank⟩ := Bool.and_eq_true_iff.mp h
  rw [← Char.ofNat_toNat c]
  exact hall c.toNat (of_decide_eq_true hle) hblank

theorem dropWhile_bytesOf (cs : List Char) :
    (bytesOf cs).dropWhile isBlankByte = bytesOf (cs.dropWhile isBlankAscii) := by
  induction cs with
  | nil => rfl
  | cons c cs ih =>
    rw [bytesOf, List.flatMap_cons]
    by_cases hc : c.toNat ≤ 127
    · rw [utf8EncodeChar_of_le hc, List.singleton_append]
      by_cases hblank : isBlankByte (UInt8.ofNat c.toNat) = true
      · rw [List.dropWhile_cons_of_pos hblank, List.dropWhile_cons_of_pos (by simp [isBlankAscii, hc, hblank])]
        exact ih
      · rw [List.dropWhile_cons_of_neg hblank, List.dropWhile_cons_of_neg (by simp [isBlankAscii, hblank]), bytesOf,
          List.flatMap_cons, utf8EncodeChar_of_le hc]
        rfl
    · obtain ⟨b, bs, hbytes⟩ := List.exists_cons_of_ne_nil (utf8EncodeChar_ne_nil c)
      have hb : 128 ≤ b.toNat := le_of_mem_utf8EncodeChar (Nat.lt_of_not_le hc) (by simp [hbytes])
      rw [List.dropWhile_cons_of_neg (by simp [isBlankAscii, hc]), bytesOf, List.flatMap_cons, hbytes, List.cons_append,
        List.dropWhile_cons_of_neg (by simp [isBlankByte_eq_false hb])]

theorem exists_fieldText (f : List Char) :
    ∃ s, fieldText (bytesOf f) = .ok s ∧ trimmed s = String.ofList (trim f) := by
  refine ⟨String.ofList (f.dropWhile isBlankAscii), ?_, ?_⟩
  · simp only [fieldText, dropWhile_bytesOf, decode?_bytesOf]
  · have hblank : ∀ c ∈ f.takeWhile isBlankAscii, isBlank c = true := fun c hc =>
      isBlank_of_isBlankAscii (List.all_eq_true.mp List.all_takeWhile c hc)
    have htrim := trimLeft_append hblank (f.dropWhile isBlankAscii)
    rw [List.takeWhile_append_dropWhile] at htrim
    rw [trimmed, String.toList_ofList, trim, ← htrim, trim]

theorem exists_fieldTexts (k : Nat) (fs : List (List Char)) :
    ∃ ts, fieldTexts k (fs.map bytesOf) = .ok ts ∧ ts.map trimmed = texts fs := by
  induction fs generalizing k with
  | nil => exact ⟨[], rfl, rfl⟩
  | cons f fs ih =>
    obtain ⟨s, hs, htrim⟩ := exists_fieldText f
    obtain ⟨ts, hts, htexts⟩ := ih (k + 1)
    refine ⟨s :: ts, ?_, ?_⟩
    · rw [List.map_cons, fieldTexts, hs]
      dsimp only
      rw [hts]
      rfl
    · rw [List.map_cons, htrim, htexts]
      rfl

/-! ### Records -/

/-- Records of characters give what their bytes give. -/
theorem readByteRecords_eq {rs : List (Csv.Record Char)} {rs' : List (Csv.Record UInt8)}
    (h : List.Forall₂ (Csv.Record.Spelled String.utf8EncodeChar) rs rs') (k : Nat) :
    readByteRecords k rs' = readRecords (rs.map lineAndFields) := by
  induction h generalizing k with
  | nil => rfl
  | @cons r r' rs rs' hr _ ih =>
    obtain ⟨ts, hts, htexts⟩ := exists_fieldTexts 0 r.fields
    have hfields : r'.fields = r.fields.map bytesOf := hr.fields
    rw [readByteRecords, hfields, hts, List.map_cons, lineAndFields, readRecords, ih (k + 1), hr.line]
    dsimp only
    rw [htexts]
    rfl

/-- The records of bytes. -/
def byteRecords (bytes : List UInt8) : List (Csv.Record UInt8) :=
  Csv.recordsFrom symbolOfByte (afterMark bytes).1 (afterMark bytes).2

/-- No other character begins with the bytes of the mark. -/
theorem eq_mark_of_bytes {c : Char} {rest bytes : List UInt8}
    (h : String.utf8EncodeChar c ++ rest = 0xef :: 0xbb :: 0xbf :: bytes) : c = '\ufeff' := by
  have hvalid : c.val.toNat.isValidChar := c.valid
  have hlt : c.val.toNat < 0x110000 := by
    rcases hvalid with hlt | ⟨-, hlt⟩ <;> omega
  have hnat : c.val.toNat = 0xfeff := by
    simp only [String.utf8EncodeChar] at h
    -- The number of bytes of a character is told by the first of them.
    repeat' split at h
    all_goals
      simp only [List.cons_append, List.nil_append, List.cons.injEq, ← UInt8.toNat_inj, UInt8.toNat_ofNat',
        UInt8.reduceToNat] at h
      omega
  exact Char.ext (UInt32.toNat_inj.mp hnat)

theorem afterMark_bytesOf (cs : List Char) :
    ∃ st, afterMark (bytesOf cs) = (st, bytesOf (dropMark cs)) ∧
      ({} : Csv.State Char).Spelled String.utf8EncodeChar st := by
  cases cs with
  | nil => exact ⟨{}, rfl, rfl, rfl, rfl, rfl, rfl⟩
  | cons c cs =>
    by_cases hmark : c = '\ufeff'
    · subst hmark
      exact ⟨{ here := { offset := 3 } }, rfl, rfl, rfl, rfl, rfl, rfl⟩
    · have hdrop : dropMark (c :: cs) = c :: cs := by
        unfold dropMark
        split
        · next heq =>
          cases heq
          exact absurd rfl hmark
        · rfl
      have hafter : afterMark (bytesOf (c :: cs)) = ({}, bytesOf (c :: cs)) := by
        unfold afterMark
        split
        · next hbytes => exact absurd (eq_mark_of_bytes hbytes) hmark
        · rfl
      rw [hdrop, hafter]
      exact ⟨{}, rfl, rfl, rfl, rfl, rfl, rfl⟩

/-- One rule for all bytes: their records are read one after the other, each as the texts of its fields. -/
theorem ofBytes_eq (bytes : List UInt8) : ofBytes bytes = readByteRecords 0 (byteRecords bytes) := by
  rw [ofBytes]
  split
  · next s hs =>
    obtain rfl := eq_bytesOf_of_decode? hs
    obtain ⟨st, hmark, hst⟩ := afterMark_bytesOf s.toList
    rw [parse, ofChars, byteRecords, hmark]
    exact (readByteRecords_eq (Csv.spelled_recordsFrom spells_bytes hst _) 0).symm
  · rfl

end Catalog
end Telemetry
