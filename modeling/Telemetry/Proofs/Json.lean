import Telemetry.Json.Reading
import Telemetry.Json.Writing

/-! Texts in JSON. However a character is escaped, it is read back as itself, and so is a text. -/

namespace Telemetry
namespace Json

theorem readChars_letter {a c : Char} (ha : a ≠ 'u') (h : escaped? a = some c) (acc rest : List Char) :
    readChars acc ('\\' :: a :: rest) = readChars (c :: acc) rest := by
  rw [readChars.eq_def]
  simp [ha, h]

theorem readChars_code {a b c d : Char} {n : Nat} (h : readHex a b c d = some n) (hn : n < 0xd800)
    (acc rest : List Char) :
    readChars acc ('\\' :: 'u' :: a :: b :: c :: d :: rest) = readChars (Char.ofNat n :: acc) rest := by
  rw [readChars.eq_def]
  split
  · contradiction
  · rename_i heq
    cases heq
  · rename_i heq
    cases heq
    simp only [h, Option.bind_eq_bind, Option.bind_some]
    rw [if_neg (by omega), if_neg (by omega)]
  · rename_i heq
    cases heq
    simp only [h, Option.bind_eq_bind, Option.bind_some]
    rw [if_neg (by omega)]
  · rename_i hcode heq
    cases heq
    exact absurd rfl (hcode a b c d rest rfl)
  · rename_i hcode heq
    cases heq
    exact (hcode _ _ rfl rfl).elim

theorem readChars_plain {c : Char} (hquote : c ≠ '"') (hslash : c ≠ '\\') (hlow : ¬c.toNat < 0x20)
    (acc rest : List Char) : readChars acc (c :: rest) = readChars (c :: acc) rest := by
  rw [readChars.eq_def]
  split
  case h_6 =>
    rename_i heq
    cases heq
    exact if_neg hlow
  all_goals simp_all

theorem readHex_digits {n : Nat} (h : n < 0x20) :
    readHex '0' '0' (Nat.digitChar (n / 16)) (Nat.digitChar (n % 16)) = some n := by
  revert n
  decide

theorem readChars_escapeChar (c : Char) (acc rest : List Char) :
    readChars acc (escapeChar c ++ rest) = readChars (c :: acc) rest := by
  unfold escapeChar
  split
  · subst_vars
    exact readChars_letter (by decide) rfl acc rest
  split
  · subst_vars
    exact readChars_letter (by decide) rfl acc rest
  split
  · subst_vars
    exact readChars_letter (by decide) rfl acc rest
  split
  · subst_vars
    exact readChars_letter (by decide) rfl acc rest
  split
  · subst_vars
    exact readChars_letter (by decide) rfl acc rest
  split
  · rename_i hlow
    have hcode := readChars_code (readHex_digits hlow) (by omega) acc rest
    rwa [Char.ofNat_toNat] at hcode
  · rename_i hquote hslash _ _ _ hlow
    exact readChars_plain hquote hslash hlow acc rest

theorem readChars_escaped (cs acc rest : List Char) :
    readChars acc (cs.flatMap escapeChar ++ '"' :: rest) = some (cs.reverse ++ acc, rest) := by
  induction cs generalizing acc with
  | nil => rw [List.flatMap_nil, List.nil_append, readChars]; rfl
  | cons c cs ih =>
    rw [List.flatMap_cons, List.append_assoc, readChars_escapeChar, ih, List.reverse_cons, List.append_assoc]
    rfl

/-- The text of a text is read back. -/
theorem parse?_write_string (s : String) : parse? (write (.string s)) = some (.string s) := by
  have htext : (write (.string s)).toList = '"' :: (s.toList.flatMap escapeChar ++ ['"']) := by
    rw [write, writeString, String.toList_ofList]
    rfl
  have hread : readString (s.toList.flatMap escapeChar ++ ['"']) = some (s, []) := by
    rw [readString, readChars_escaped, Option.map_some]
    simp
  have hvalue : ∀ fuel, readValue (fuel + 1) (write (.string s)).toList = some (.string s, []) := by
    intro fuel
    rw [htext, readValue, skipSpace, List.dropWhile_cons_of_neg (by decide)]
    simp only [hread, Option.map_some]
  rw [parse?]
  simp only [hvalue]
  rfl

end Json
end Telemetry
