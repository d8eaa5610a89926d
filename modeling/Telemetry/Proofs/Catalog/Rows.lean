import Telemetry.Catalog.Reading
import Telemetry.Proofs.Csv
import Telemetry.Proofs.Ending

/-! Catalogs as rows. But for the places that faults name, what a catalog gives depends on the texts of its rows
    alone, and rows that stand for no counter can be left out anywhere. -/

namespace Telemetry

/-- A fault without its place in the text. -/
def CatalogError.unplaced : CatalogError → CatalogError
  | .invalidText _ _ field _ byte => .invalidText 0 0 field 0 byte
  | .fieldCount _ found => .fieldCount 0 found
  | .unknownField _ name => .unknownField 0 name
  | .unknownType _ value => .unknownType 0 value
  | e => e

namespace Catalog

open CatalogError (unplaced)
open Csv (rowsFrom symbolOfChar EndsLine)
open Text

/-! ### Rows -/

/-- The fields of a row as texts. -/
def texts (row : List (List Char)) : List String := row.map fun cs => String.ofList (trim cs)

/-- The counters of rows; faults have no place. -/
def readRows (rows : List (List (List Char))) : Except CatalogError (List Counter) :=
  readRecords (rows.map fun row => (0, texts row))

theorem mapError_eq_ok_iff {ε ε' α : Type} {f : ε → ε'} {r : Except ε α} {a : α} :
    r.mapError f = .ok a ↔ r = .ok a := by
  cases r with
  | error e => exact ⟨nofun, nofun⟩
  | ok b => exact ⟨fun h => congrArg _ (Except.ok.inj h), fun h => congrArg _ (Except.ok.inj h)⟩

theorem unplaced_readCounter (line : Nat) (fields : List String) :
    (readCounter line fields).mapError unplaced = readCounter 0 fields := by
  unfold readCounter
  split
  · split <;> rfl
  · rfl

theorem unplaced_readRecords (rs : List (Nat × List String)) :
    (readRecords rs).mapError unplaced = readRecords (rs.map fun r => (0, r.2)) := by
  induction rs with
  | nil => rfl
  | cons r rs ih =>
    obtain ⟨line, fields⟩ := r
    rw [List.map_cons, readRecords, readRecords, ← ih, ← unplaced_readCounter line fields]
    split
    · rfl
    · cases readCounter line fields with
      | error e => rfl
      | ok c => cases readRecords rs <;> rfl

theorem unplaced_parse (s : String) :
    (parse s).mapError unplaced = readRows (rowsFrom symbolOfChar {} (dropMark s.toList)) := by
  rw [parse, ofChars, unplaced_readRecords, readRows, rowsFrom, List.map_map, List.map_map]
  rfl

/-- A catalog gives counters exactly if its rows do. -/
theorem parse_eq_ok_iff {s : String} {cs : List Counter} :
    parse s = .ok cs ↔ readRows (rowsFrom symbolOfChar {} (dropMark s.toList)) = .ok cs := by
  rw [← unplaced_parse, mapError_eq_ok_iff]

theorem readRows_cons_of_ignored {row : List (List Char)} (h : isIgnored (texts row) = true)
    (rows : List (List (List Char))) : readRows (row :: rows) = readRows rows := by
  rw [readRows, List.map_cons, readRecords, if_pos h, readRows]

/-- What stands behind rows matters only through the rows that it has. -/
theorem readRows_append_congr (rows : List (List (List Char))) {rows₁ rows₂ : List (List (List Char))}
    (h : readRows rows₁ = readRows rows₂) : readRows (rows ++ rows₁) = readRows (rows ++ rows₂) := by
  induction rows with
  | nil => exact h
  | cons row rows ih =>
    rw [List.cons_append, List.cons_append, readRows, readRows, List.map_cons, List.map_cons, readRecords, readRecords]
    rw [readRows, readRows] at ih
    rw [ih]

/-! ### Characters -/

theorem endsLine_iff {c : Char} : EndsLine symbolOfChar c ↔ c = '\n' ∨ c = '\r' := by
  unfold EndsLine symbolOfChar
  split <;> simp_all

theorem symbolOfChar_eq_quote_iff {c : Char} : symbolOfChar c = .quote ↔ c = '"' := by
  unfold symbolOfChar
  split <;> simp_all

theorem symbolOfChar_eq_plain {c : Char} (hcomma : c ≠ ',') (hquote : c ≠ '"') (hline : ¬ EndsLine symbolOfChar c) :
    symbolOfChar c = .plain := by
  rw [endsLine_iff] at hline
  unfold symbolOfChar
  split <;> simp_all

/-- The ways to end a line. -/
def lineEnds : List (List Char) := [['\n'], ['\r'], ['\r', '\n']]

theorem endsLine_of_mem_lineEnds {ending : List Char} (h : ending ∈ lineEnds) :
    ending ≠ [] ∧ ∀ c ∈ ending, EndsLine symbolOfChar c := by
  simp only [lineEnds, List.mem_cons, List.not_mem_nil, or_false] at h
  rcases h with rfl | rfl | rfl <;> simp [endsLine_iff]

/-! ### Rows that stand for no counter -/

/-- The blanks and the sign that begin a comment. -/
def IsSign (start : List Char) : Prop := ∃ blanks, (∀ c ∈ blanks, isBlank c = true) ∧ start = blanks ++ ['#']

theorem isIgnored_of_sign {start f : List Char} (hsign : IsSign start) (hstart : start <+: f) (fs : List (List Char)) :
    isIgnored (texts (f :: fs)) = true := by
  obtain ⟨blanks, hblanks, rfl⟩ := hsign
  obtain ⟨body, rfl⟩ := hstart
  obtain ⟨r, hr⟩ := exists_trimRight_cons (c := '#') (by decide) body
  have htrim : trim (blanks ++ ['#'] ++ body) = '#' :: r := by
    rw [trim, List.append_assoc, trimLeft_append hblanks, List.cons_append, List.nil_append, ← hr]
    rfl
  rw [isIgnored, texts, List.map_cons, htrim]
  simp

end Catalog
end Telemetry
