import Mathlib.Algebra.Group.Nat.Defs
import Telemetry.Wire.Message

/-! Messages that are written and read back. Numbers, keys and values are read off the bytes in front of whatever
    stands behind them, so fields are read one after the other as they were written. -/

namespace Telemetry.Wire

/-! ### Numbers and keys -/

theorem readVarintFrom_varint {n shift : Nat} (hshift : shift < 64) (hn : n * 2 ^ shift < 2 ^ 64) (rest : List UInt8) :
    readVarintFrom shift (varint n ++ rest) = .ok (n * 2 ^ shift, rest) := by
  induction n using Nat.strongRecOn generalizing shift with
  | _ n ih =>
    rw [varint]
    split
    · next hsmall =>
      have hbyte : (UInt8.ofNat n).toNat = n := by
        rw [UInt8.toNat_ofNat']
        omega
      -- The tenth group has room for a single bit.
      have hlast : ¬ (shift = 63 ∧ 1 < n) := by
        rintro ⟨rfl, hlarge⟩
        omega
      rw [List.cons_append, List.nil_append, readVarintFrom, hbyte, if_neg (by omega), if_pos hsmall, if_neg hlast]
      rfl
    · next hlarge =>
      have hbyte : (UInt8.ofNat (n % 128 + 128)).toNat = n % 128 + 128 := by
        rw [UInt8.toNat_ofNat']
        omega
      have hpow : 2 ^ (shift + 7) = 128 * 2 ^ shift := by rw [Nat.pow_add, Nat.mul_comm]
      have hdiv : n / 128 * 2 ^ (shift + 7) + n % 128 * 2 ^ shift = n * 2 ^ shift := by
        rw [hpow, ← Nat.mul_assoc, ← Nat.add_mul, Nat.mul_comm (n / 128), Nat.div_add_mod]
      have hone : 2 ^ (shift + 7) ≤ n / 128 * 2 ^ (shift + 7) := Nat.le_mul_of_pos_left _ (by omega)
      have hnext : shift + 7 < 64 := (Nat.pow_lt_pow_iff_right (by decide : 1 < 2)).mp (by omega)
      have hrest := ih (n / 128) (by omega) hnext (by omega)
      rw [List.cons_append, readVarintFrom, hbyte, if_neg (by omega), if_neg (by omega), hrest]
      simp only [Nat.add_sub_cancel]
      rw [← hdiv, Nat.add_comm]
      rfl

theorem readVarint_varint {n : Nat} (h : n < 2 ^ 64) (rest : List UInt8) :
    readVarint (varint n ++ rest) = .ok (n, rest) := by
  have hread := readVarintFrom_varint (by decide : 0 < 64) (by simpa using h) rest
  rwa [Nat.pow_zero, Nat.mul_one] at hread

theorem varint_ne_nil (n : Nat) : varint n ≠ [] := by
  rw [varint]
  split <;> exact List.cons_ne_nil _ _

theorem ofCode?_code (t : WireType) : WireType.ofCode? t.code = some t := by cases t <;> rfl

theorem code_lt (t : WireType) : t.code < 8 := by cases t <;> decide

/-- The numbers that fields may have. -/
def IsTag (tag : Nat) : Prop := 0 < tag ∧ tag < 2 ^ 29

instance (tag : Nat) : Decidable (IsTag tag) := inferInstanceAs (Decidable (_ ∧ _))

theorem readKey_key {tag : Nat} (htag : IsTag tag) (t : WireType) (rest : List UInt8) :
    readKey (key tag t ++ rest) = .ok ((tag, t), rest) := by
  obtain ⟨hpos, hlt⟩ := htag
  have hcode := code_lt t
  have hsize : ¬ UInt32.size ≤ tag * 8 + t.code := by
    rw [UInt32.size]
    omega
  have hmod : (tag * 8 + t.code) % 8 = t.code := by omega
  have hdiv : (tag * 8 + t.code) / 8 = tag := by omega
  rw [readKey, key, readVarint_varint (by omega) rest]
  simp only [bind, Except.bind]
  rw [if_neg hsize, hmod, ofCode?_code, hdiv]
  simp [Nat.ne_of_gt hpos]

/-! ### Fields -/

/-- Bytes that are fields which take one message to another, each of them read as it stands, whatever follows. -/
inductive Writes {α : Type} (merge : Merge α) : α → List UInt8 → α → Prop where
  | nil (a : α) : Writes merge a [] a
  | field {a b c : α} {tag : Nat} {t : WireType} {value bytes : List UInt8} (htag : IsTag tag)
      (hread : ∀ rest, merge tag t a (value ++ rest) = .ok (b, rest)) (hrest : Writes merge b bytes c) :
      Writes merge a (key tag t ++ value ++ bytes) c

namespace Writes
variable {α : Type} {merge : Merge α} {a b c : α} {bytes more : List UInt8}

theorem append (h : Writes merge a bytes b) (hmore : Writes merge b more c) : Writes merge a (bytes ++ more) c := by
  induction h with
  | nil => exact hmore
  | field htag hread _ ih =>
    rw [List.append_assoc]
    exact .field htag hread (ih hmore)

/-- Fields are read up to what stands behind them. -/
theorem readFields_eq (h : Writes merge a bytes b) (rest : List UInt8) {fuel : Nat}
    (hfuel : (bytes ++ rest).length ≤ fuel) : readFields merge rest.length fuel a (bytes ++ rest) = .ok (b, rest) := by
  induction h generalizing fuel with
  | nil a =>
    cases fuel with
    | zero => rfl
    | succ fuel => rw [readFields, List.nil_append, if_pos (Nat.le_refl _)]
  | @field a b c tag t value bytes htag hread _ ih =>
    have hkey : 0 < (key tag t).length := List.length_pos_iff.mpr (varint_ne_nil _)
    simp only [List.length_append] at hfuel
    obtain ⟨fuel, rfl⟩ : ∃ n, fuel = n + 1 := ⟨fuel - 1, by omega⟩
    rw [readFields, if_neg (by simp only [List.length_append]; omega), List.append_assoc, List.append_assoc,
      readKey_key htag]
    simp only [hread]
    exact ih (by simp only [List.length_append]; omega)

theorem readMessage_eq (h : Writes merge a bytes b) : readMessage merge a bytes = .ok b := by
  have hread := h.readFields_eq [] (Nat.le_refl _)
  rw [List.append_nil, List.length_nil] at hread
  rw [readMessage, hread]
  rfl

end Writes

/-! ### Values -/

theorem readText_delimited {s : String} (h : (Text.encode s).length < 2 ^ 64) (rest : List UInt8) :
    readText .lengthDelimited (delimited (Text.encode s) ++ rest) = .ok (s, rest) := by
  have hlength : ¬ (Text.encode s ++ rest).length < (Text.encode s).length := by
    rw [List.length_append]
    omega
  rw [readText, delimited, List.append_assoc, readVarint_varint h]
  simp only [checkDelimited, if_pos, bind, Except.bind, if_neg hlength, List.take_left, List.drop_left,
    Text.decode?_encode]
  rfl

theorem readNested_delimited {α : Type} {merge : Nat → Merge α} {empty a : α} {depth : Nat} {bytes : List UInt8}
    (hlength : bytes.length < 2 ^ 64) (h : Writes (merge depth) empty bytes a) (rest : List UInt8) :
    readNested merge empty (depth + 1) .lengthDelimited (delimited bytes ++ rest) = .ok (a, rest) := by
  have hroom : ¬ (bytes ++ rest).length < bytes.length := by
    rw [List.length_append]
    omega
  have hleft : (bytes ++ rest).length - bytes.length = rest.length := by
    rw [List.length_append, Nat.add_sub_cancel_left]
  have hread := h.readFields_eq rest (Nat.le_refl _)
  rw [readNested, delimited, List.append_assoc, readVarint_varint hlength]
  simp only [checkDelimited, if_pos, Nat.succ_ne_zero, if_false, if_neg hroom, hleft, Nat.add_sub_cancel, hread]

/-! ### Fields as they are written -/

theorem textsField_eq (tag : Nat) (ss : List String) : textsField tag ss = messagesField tag (ss.map Text.encode) := by
  rw [textsField, messagesField, List.flatMap_map]

theorem length_lt_of_textField {tag bound : Nat} {s : String} (h : (textField tag s).length < bound) (hs : s ≠ "") :
    (Text.encode s).length < bound := by
  rw [textField, if_neg (by simpa using hs)] at h
  simp only [delimited, List.length_append] at h
  omega

/-- An element of a field that repeats is no longer than all of the field. -/
theorem length_le_messagesField (tag : Nat) {m : List UInt8} {ms : List (List UInt8)} (hm : m ∈ ms) :
    m.length ≤ (messagesField tag ms).length := by
  obtain ⟨before, after, rfl⟩ := List.append_of_mem hm
  simp only [messagesField, delimited, List.flatMap_append, List.flatMap_cons, List.length_append]
  omega

/-- A text that is empty is not written. -/
theorem writes_textField {α : Type} {merge : Merge α} {tag : Nat} {s : String} {a b : α} (htag : IsTag tag)
    (hempty : s = "" → a = b)
    (hread : s ≠ "" → ∀ rest, merge tag .lengthDelimited a (delimited (Text.encode s) ++ rest) = .ok (b, rest)) :
    Writes merge a (textField tag s) b := by
  by_cases hs : s = ""
  · rw [textField, if_pos (by simpa using hs), hempty hs]
    exact .nil b
  · rw [textField, if_neg (by simpa using hs)]
    simpa using Writes.field htag (hread hs) (.nil b)

/-- A list grows by every element that is written, an empty one too; `put` gives the message with a list. -/
theorem writes_messagesField {α β : Type} {merge : Merge α} {tag : Nat} {xs : List β} (encode : β → List UInt8)
    (put : List β → α) (htag : IsTag tag)
    (hread : ∀ x ∈ xs, ∀ before rest,
      merge tag .lengthDelimited (put before) (delimited (encode x) ++ rest) = .ok (put (before ++ [x]), rest))
    (before : List β) : Writes merge (put before) (messagesField tag (xs.map encode)) (put (before ++ xs)) := by
  induction xs generalizing before with
  | nil =>
    rw [List.append_nil]
    exact .nil _
  | cons x xs ih =>
    have hrest := ih (fun y hy => hread y (List.mem_cons_of_mem _ hy)) (before ++ [x])
    rw [List.append_assoc, List.singleton_append] at hrest
    exact .field htag (hread x List.mem_cons_self before) hrest

end Telemetry.Wire
