import Telemetry.Proofs.Csv

/-! Where records stand. The reader says of a record where the record before was complete: the line is that of the end
    of the line that completed it. The line ends that are passed over in front of a record come behind this place. -/

namespace Telemetry.Csv

variable {α : Type} {symbol : α → Symbol} {st : State α} {as : List α} {r : Record α} {earlier later : List (Record α)}

/-! ### Lines -/

/-- The number of the line that the symbol behind some symbols is on. -/
def lineBehind (symbol : α → Symbol) (as : List α) : Nat := as.countP (fun a => symbol a = .newline) + 1

theorem here_step (st : State α) (a : α) : (st.step symbol a).1.here = st.here.advance (symbol a) := by
  obtain ⟨mode, field, fields, start, here⟩ := st
  unfold State.step
  cases mode <;> cases symbol a <;> rfl

theorem line_read (st : State α) (as : List α) :
    (read symbol st as).1.here.line = st.here.line + as.countP fun a => symbol a = .newline := by
  induction as generalizing st with
  | nil => rfl
  | cons a as ih =>
    rw [read, ih, here_step, Position.advance, List.countP_cons]
    by_cases ha : symbol a = .newline
    · simp only [ha, if_true, decide_true]
      omega
    · simp only [ha, if_false, decide_false, Bool.false_eq_true, Nat.add_zero]

theorem line_read_start (symbol : α → Symbol) (as : List α) : (read symbol {} as).1.here.line = lineBehind symbol as := by
  rw [line_read, lineBehind, Nat.add_comm]

/-! ### The end of a record -/

/-- A symbol completes a record, which is said to stand where the one before was complete, or leaves that place. -/
theorem step_cases (symbol : α → Symbol) (st : State α) (a : α) :
    (st.step symbol a).2 = none ∧ (st.step symbol a).1.start = st.start ∨
      ∃ r, (st.step symbol a).2 = some r ∧ r.position = st.start ∧
        (st.step symbol a).1 = { start := st.here.advance (symbol a), here := st.here.advance (symbol a) } := by
  obtain ⟨mode, field, fields, start, here⟩ := st
  unfold State.step
  cases mode <;> cases symbol a <;> first | exact .inl ⟨rfl, rfl⟩ | exact .inr ⟨_, rfl, rfl, rfl⟩

theorem position_of_recordsFrom (h : recordsFrom symbol st as = r :: later) : r.position = st.start := by
  induction as generalizing st with
  | nil =>
    rw [recordsFrom, State.finish] at h
    split at h
    · cases h
    · cases h
      rfl
  | cons a as ih =>
    rw [recordsFrom] at h
    rcases step_cases symbol st a with ⟨hnone, hstart⟩ | ⟨r', hsome, hposition, -⟩
    · rw [← hstart]
      generalize st.step symbol a = x at h hnone ⊢
      obtain ⟨next, _ | r'⟩ := x
      · exact ih h
      · cases hnone
    · generalize st.step symbol a = x at h hsome
      obtain ⟨next, _ | r''⟩ := x
      · cases hsome
      · cases hsome
        cases h
        exact hposition

/-- The symbols are none, or the last one of them completes a record. -/
def EndsRecord (symbol : α → Symbol) (as : List α) : Prop :=
  as = [] ∨ ∃ init a, as = init ++ [a] ∧ ((read symbol {} init).1.step symbol a).2.isSome

/-- Behind a complete record the reader is as at the beginning, and the next record will be said to stand there. -/
theorem EndsRecord.state (h : EndsRecord symbol as) :
    (read symbol {} as).1.Like {} ∧ (read symbol {} as).1.start.line = lineBehind symbol as := by
  rcases h with rfl | ⟨init, a, rfl, hsome⟩
  · exact ⟨⟨rfl, rfl, rfl⟩, rfl⟩
  · have hread : (read symbol {} (init ++ [a])).1 = ((read symbol {} init).1.step symbol a).1 := by
      rw [read_append]
      rfl
    have hline := line_read_start symbol (init ++ [a])
    rcases step_cases symbol (read symbol {} init).1 a with ⟨hnone, -⟩ | ⟨r, -, -, hnext⟩
    · rw [hnone] at hsome
      cases hsome
    · rw [hread, hnext] at hline ⊢
      exact ⟨⟨rfl, rfl, rfl⟩, hline⟩

/-! ### Records in their text -/

/-- Where a record stands: what is in front of it up to the end of the record before, the line ends behind that, which
    are passed over, and all from its first symbol on. -/
structure Placed (symbol : α → Symbol) (as : List α) (earlier : List (Record α)) (row : List (List α))
    (before gap rest : List α) : Prop where
  text : as = before ++ gap ++ rest
  earlier : (read symbol {} before).2 = earlier
  ends : EndsRecord symbol before
  gap : ∀ a ∈ gap, EndsLine symbol a
  begins : ∃ a more, rest = a :: more ∧ ¬ EndsLine symbol a
  row : ∃ rows, rowsFrom symbol {} rest = row :: rows

/-- The first of several records is complete before the end of the symbols. -/
theorem exists_completes (h : recordsFrom symbol st as = r :: later) (hlater : later ≠ []) :
    ∃ init a rest, as = init ++ a :: rest ∧ (read symbol st init).2 = [] ∧
      ((read symbol st init).1.step symbol a).2 = some r ∧
      recordsFrom symbol ((read symbol st init).1.step symbol a).1 rest = later := by
  induction as generalizing st with
  | nil =>
    rw [recordsFrom, State.finish] at h
    split at h
    · cases h
    · cases h
      exact absurd rfl hlater
  | cons a as ih =>
    rcases hstep : st.step symbol a with ⟨next, _ | r'⟩
    · rw [recordsFrom, hstep] at h
      obtain ⟨init, b, rest, rfl, hnone, hb, hrest⟩ := ih h
      have hread : read symbol st (a :: init) = read symbol next init := by
        rw [read_cons (by rw [hstep]), hstep]
      exact ⟨a :: init, b, rest, rfl, by rw [hread, hnone], by rw [hread, hb], by rw [hread, hrest]⟩
    · rw [recordsFrom, hstep] at h
      cases h
      exact ⟨[], a, as, rfl, rfl, congrArg Prod.snd hstep, by rw [read, hstep]⟩

theorem exists_placed_behind {done : List α} (hdone : EndsRecord symbol done)
    (h : recordsFrom symbol (read symbol {} done).1 as = earlier ++ r :: later) :
    ∃ before gap rest, Placed symbol (done ++ as) ((read symbol {} done).2 ++ earlier) r.fields before gap rest ∧
      r.position.line = lineBehind symbol before := by
  induction earlier generalizing done as with
  | nil =>
    obtain ⟨hlike, hline⟩ := hdone.state
    let gap := as.takeWhile fun a => EndsLine symbol a
    let rest := as.dropWhile fun a => EndsLine symbol a
    have htext : gap ++ rest = as := List.takeWhile_append_dropWhile
    have hgap : ∀ a ∈ gap, EndsLine symbol a := fun a ha => by simpa using List.all_eq_true.mp List.all_takeWhile a ha
    have hrows : rowsFrom symbol {} rest = r.fields :: later.map Record.fields := by
      rw [← rowsFrom_line_ends hgap rest, htext, ← rowsFrom_congr hlike, rowsFrom, h]
      rfl
    refine ⟨done, gap, rest, ⟨?_, (List.append_nil _).symm, hdone, hgap, ?_, _, hrows⟩, ?_⟩
    · rw [List.append_assoc, htext]
    · cases hrest : rest with
      | nil =>
        rw [hrest] at hrows
        cases hrows
      | cons a more =>
        refine ⟨a, more, rfl, ?_⟩
        have hhead := List.head?_dropWhile_not (fun a => decide (EndsLine symbol a)) as
        rw [show as.dropWhile _ = _ from hrest] at hhead
        simpa using hhead
    · rw [position_of_recordsFrom h, hline]
  | cons r' earlier ih =>
    obtain ⟨init, a, rest, rfl, hnone, ha, hrest⟩ := exists_completes h (by simp)
    have hread : read symbol {} (done ++ init ++ [a]) =
        (((read symbol (read symbol {} done).1 init).1.step symbol a).1, (read symbol {} done).2 ++ [r']) := by
      rw [read_append, read_append, read, read, hnone, ha]
      simp
    have hends : EndsRecord symbol (done ++ init ++ [a]) := by
      refine .inr ⟨done ++ init, a, rfl, ?_⟩
      rw [read_append, ha]
      rfl
    obtain ⟨before, gap, rest', hplaced, hline⟩ := ih hends (by rw [hread]; exact hrest)
    rw [hread] at hplaced
    refine ⟨before, gap, rest', ?_, hline⟩
    simpa only [List.append_assoc, List.singleton_append] using hplaced

/-- Every record stands somewhere, and it is said to be on the line on which the one before is complete. -/
theorem exists_placed (h : records symbol as = earlier ++ r :: later) :
    ∃ before gap rest, Placed symbol as earlier r.fields before gap rest ∧
      r.position.line = lineBehind symbol before :=
  exists_placed_behind (.inl rfl) h

/-- What stands somewhere is a record. -/
theorem Placed.exists_record {row : List (List α)} {before gap rest : List α}
    (h : Placed symbol as earlier row before gap rest) :
    ∃ r later, records symbol as = earlier ++ r :: later ∧ r.fields = row ∧
      r.position.line = lineBehind symbol before := by
  obtain ⟨hlike, hline⟩ := h.ends.state
  obtain ⟨rows, hrows⟩ := h.row
  rw [← rowsFrom_line_ends h.gap rest, ← rowsFrom_congr hlike, rowsFrom] at hrows
  obtain ⟨r, later, hrecords, hfields, -⟩ := List.map_eq_cons_iff.mp hrows
  refine ⟨r, later, ?_, hfields, ?_⟩
  · rw [records, h.text, List.append_assoc, recordsFrom_append, h.earlier, hrecords]
  · rw [position_of_recordsFrom hrecords, hline]

end Telemetry.Csv
