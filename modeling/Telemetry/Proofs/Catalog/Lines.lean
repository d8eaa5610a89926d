import Telemetry.Proofs.Catalog.Faults
import Telemetry.Proofs.Csv.Positions

/-! The lines that faults name. A fault names the line that is reached where the record before the rejected one is
    complete. This is the line on which the rejected record begins unless a newline comes between the two, be it that
    of an empty line or the second character of a line end of two. -/

namespace Telemetry

/-- The line that a fault names. -/
def CatalogError.line? : CatalogError → Option Nat
  | .fieldCount line _ | .unknownField line _ | .unknownType line _ | .invalidText _ line _ _ _ => some line
  | .unopened .. | .unreadable .. => none

namespace Catalog

open Csv (rowsFrom symbolOfChar EndsRecord)
open Text

variable {line : Nat} {fields : List String} {e : CatalogError} {s : String} {text before gap rest : List Char}

/-- The number, from one, of the line that is reached behind some characters. -/
def lineBehind (cs : List Char) : Nat := cs.count '\n' + 1

theorem symbolOfChar_eq_newline_iff {c : Char} : symbolOfChar c = .newline ↔ c = '\n' := by
  unfold symbolOfChar
  split <;> simp_all

theorem lineBehind_eq (cs : List Char) : Csv.lineBehind symbolOfChar cs = lineBehind cs := by
  simp only [Csv.lineBehind, lineBehind, symbolOfChar_eq_newline_iff, List.count, beq_eq_decide]

theorem lineBehind_append (cs ds : List Char) : lineBehind (cs ++ ds) = lineBehind cs + ds.count '\n' := by
  rw [lineBehind, lineBehind, List.count_append]
  omega

/-! ### Faults of rows -/

theorem Faulty.line?_eq (h : Faulty (.ok (line, fields)) e) : e.line? = some line := by
  cases h <;> rfl

/-- The same row has a fault on every line. -/
theorem Faulty.exists_on (h : Faulty (.ok (line, fields)) e) (line' : Nat) : ∃ e', Faulty (.ok (line', fields)) e' := by
  cases h with
  | fieldCount hcounts hlength => exact ⟨_, .fieldCount hcounts hlength⟩
  | unknownField hcounts hname => exact ⟨_, .unknownField hcounts hname⟩
  | unknownType hf htype => exact ⟨_, .unknownType hf htype⟩

/-! ### The rejected record -/

/-- The rejected record of a text: the first one with a fault, which it has on whatever line it is said to be. -/
def Rejected (text : List Char) (e : CatalogError) (before gap rest : List Char) : Prop :=
  ∃ earlier row, Csv.Placed symbolOfChar text earlier row before gap rest ∧
    (∀ r ∈ earlier, Sound (.ok (lineAndFields r))) ∧ ∃ line, Faulty (.ok (line, texts row)) e

theorem parse_eq_readItems (s : String) :
    parse s = readItems ((Csv.records symbolOfChar (dropMark s.toList)).map fun r => .ok (lineAndFields r)) := by
  rw [parse, ofChars, readRecords_eq, List.map_map]
  rfl

/-- A text is rejected for the fault of its first record with one. -/
theorem parse_eq_error_iff_records : parse s = .error e ↔ ∃ earlier r later,
    Csv.records symbolOfChar (dropMark s.toList) = earlier ++ r :: later ∧
      (∀ r ∈ earlier, Sound (.ok (lineAndFields r))) ∧ Faulty (.ok (lineAndFields r)) e := by
  rw [parse_eq_readItems, readItems_eq_error_iff]
  constructor
  · rintro ⟨items, x, items', hitems, hsound, hx⟩
    obtain ⟨earlier, rs, hrecords, rfl, hrs⟩ := List.map_eq_append_iff.mp hitems
    obtain ⟨r, later, rfl, rfl, rfl⟩ := List.map_eq_cons_iff.mp hrs
    exact ⟨earlier, r, later, hrecords, List.forall_mem_map.mp hsound, hx⟩
  · rintro ⟨earlier, r, later, hrecords, hsound, hx⟩
    rw [hrecords, List.map_append, List.map_cons]
    exact ⟨_, _, _, rfl, List.forall_mem_map.mpr hsound, hx⟩

/-- The line of the fault is the one behind the record before. -/
theorem parse_eq_error_iff : parse s = .error e ↔
    ∃ before gap rest, Rejected (dropMark s.toList) e before gap rest ∧ e.line? = some (lineBehind before) := by
  rw [parse_eq_error_iff_records]
  constructor
  · rintro ⟨earlier, r, later, hrecords, hsound, hr⟩
    obtain ⟨before, gap, rest, hplaced, hline⟩ := Csv.exists_placed hrecords
    refine ⟨before, gap, rest, ⟨earlier, r.fields, hplaced, hsound, _, hr⟩, ?_⟩
    rw [hr.line?_eq, hline, lineBehind_eq]
  · rintro ⟨before, gap, rest, ⟨earlier, row, hplaced, hsound, line, hrow⟩, hline⟩
    obtain ⟨r, later, hrecords, rfl, hposition⟩ := hplaced.exists_record
    -- The fault names the line of the record, as this is where the record is said to be.
    obtain rfl : line = r.position.line := by
      rw [hposition, lineBehind_eq]
      exact Option.some.inj (hrow.line?_eq.symm.trans hline)
    exact ⟨earlier, r, later, hrecords, hsound, hrow⟩

/-- A text with a rejected record is rejected on the line behind the record before. -/
theorem Rejected.exists_parse (h : Rejected (dropMark s.toList) e before gap rest) :
    ∃ e', parse s = .error e' ∧ e'.line? = some (lineBehind before) := by
  obtain ⟨earlier, row, hplaced, hsound, line, hrow⟩ := h
  obtain ⟨e', hrow'⟩ := hrow.exists_on (lineBehind before)
  exact ⟨e', parse_eq_error_iff.mpr ⟨before, gap, rest, ⟨earlier, row, hplaced, hsound, _, hrow'⟩, hrow'.line?_eq⟩,
    hrow'.line?_eq⟩

/-- A text fails with a fault if and only if its rejected record has it, on the line that is reached behind the record
    before. This is the line on which the rejected record begins if and only if there is no newline in between. -/
theorem line_of_fault (s : String) (e : CatalogError) :
    (parse s = .error e ↔
      ∃ before gap rest, Rejected (dropMark s.toList) e before gap rest ∧ e.line? = some (lineBehind before)) ∧
    (parse s = .error e → ∀ before gap rest, Rejected (dropMark s.toList) e before gap rest →
      e.line? = some (lineBehind before) ∧ (e.line? = some (lineBehind (before ++ gap)) ↔ '\n' ∉ gap)) := by
  refine ⟨parse_eq_error_iff, fun h before gap rest hrejected => ?_⟩
  have hline : e.line? = some (lineBehind before) := by
    obtain ⟨e', he', hline⟩ := hrejected.exists_parse
    obtain rfl : e = e' := Except.error.inj (h.symm.trans he')
    exact hline
  refine ⟨hline, ?_⟩
  rw [hline, lineBehind_append, ← List.count_eq_zero, Option.some.injEq]
  omega

/-- A comment and a counter whose help text is on two lines. -/
def twoLineHelp : List Char := "# name, type, help\nDCGM_FI_DEV_GPU_TEMP, gauge,\"T,\r\nin C\"\n".toList

theorem endsRecord_twoLineHelp : EndsRecord symbolOfChar twoLineHelp :=
  .inr ⟨twoLineHelp.dropLast, '\n', by decide +kernel, by decide +kernel⟩

theorem sound_twoLineHelp : ∀ r ∈ (Csv.read symbolOfChar {} twoLineHelp).2, Sound (.ok (lineAndFields r)) := by
  have hrows : (Csv.read symbolOfChar {} twoLineHelp).2.map lineAndFields =
      [(1, ["# name", "type", "help"]), (2, ["DCGM_FI_DEV_GPU_TEMP", "gauge", "T,\r\nin C"])] := rfl
  have htemp : { id := 150, name := "DCGM_FI_DEV_GPU_TEMP", type := .int64 } ∈ Field.table := by decide +kernel
  rw [← List.forall_mem_map (f := lineAndFields) (P := fun row => Sound (.ok row)), hrows]
  exact List.forall_mem_cons.mpr
    ⟨.passedOver (by decide), List.forall_mem_singleton.mpr (.described (.row htemp .gauge _))⟩

/-- A row of two fields. -/
def shortRow : List Char := "DCGM_FI_DEV_SM_CLOCK, gauge\n".toList

/-- Behind the comment and the counter the row is rejected, whatever line ends come in between. -/
theorem rejected_shortRow (gap : List Char) (hgap : ∀ c ∈ gap, Csv.EndsLine symbolOfChar c) (line : Nat) :
    Rejected (dropMark (String.ofList (twoLineHelp ++ gap ++ shortRow)).toList) (.fieldCount line 2)
      twoLineHelp gap shortRow := by
  have htext : dropMark (String.ofList (twoLineHelp ++ gap ++ shortRow)).toList = twoLineHelp ++ gap ++ shortRow := by
    rw [String.toList_ofList]
    rfl
  exact ⟨_, _, ⟨htext, rfl, endsRecord_twoLineHelp, hgap, ⟨'D', _, rfl, by decide⟩, _, rfl⟩, sound_twoLineHelp,
    line, .fieldCount (by decide) (by decide)⟩

/-- Where the row follows at once, its fault is said to be on the line where it is. -/
theorem line_of_fault_twoLineHelp :
    let s := String.ofList (twoLineHelp ++ [] ++ shortRow)
    let e : CatalogError := .fieldCount 4 2
    parse s = .error e ∧ Rejected (dropMark s.toList) e twoLineHelp [] shortRow ∧
      e.line? = some (lineBehind (twoLineHelp ++ [])) :=
  have hparse : parse (String.ofList (twoLineHelp ++ [] ++ shortRow)) = .error (.fieldCount 4 2) := rfl
  have hrejected := rejected_shortRow [] nofun 4
  ⟨hparse, hrejected, ((line_of_fault _ _).2 hparse _ _ _ hrejected).2.mpr List.not_mem_nil⟩

/-- Where an empty line comes in between, the fault is said to be on that line, and the row is on the next. -/
theorem line_of_fault_emptyLine :
    let s := String.ofList (twoLineHelp ++ ['\n'] ++ shortRow)
    let e : CatalogError := .fieldCount 4 2
    parse s = .error e ∧ Rejected (dropMark s.toList) e twoLineHelp ['\n'] shortRow ∧
      lineBehind (twoLineHelp ++ ['\n']) = 5 :=
  have hparse : parse (String.ofList (twoLineHelp ++ ['\n'] ++ shortRow)) = .error (.fieldCount 4 2) := rfl
  ⟨hparse, rejected_shortRow ['\n'] (List.forall_mem_singleton.mpr (endsLine_iff.mpr (.inl rfl))) 4, by decide +kernel⟩

end Catalog
end Telemetry
