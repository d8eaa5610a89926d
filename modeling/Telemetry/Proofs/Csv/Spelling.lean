import Mathlib.Data.List.Forall2
import Telemetry.Proofs.Csv

/-! Records in another spelling. Where every symbol is spelled by symbols of another kind, one that has a meaning for
    the reader by one with the same meaning, and a plain one by plain ones, the records are spelled by those that are
    read from the spelling, and they are on the same lines. -/

namespace Telemetry.Csv

variable {α β : Type} {symbol : α → Symbol} {symbol' : β → Symbol} {spell : α → List β}

/-- A spelling of symbols that keeps what they mean. -/
def Spells (symbol : α → Symbol) (symbol' : β → Symbol) (spell : α → List β) : Prop :=
  ∀ a, (∃ b, spell a = [b] ∧ symbol' b = symbol a) ∨
    symbol a = .plain ∧ spell a ≠ [] ∧ ∀ b ∈ spell a, symbol' b = .plain

/-- A record and its spelling. -/
structure Record.Spelled (spell : α → List β) (r : Record α) (r' : Record β) : Prop where
  fields : r'.fields = r.fields.map fun f => f.flatMap spell
  line : r'.position.line = r.position.line

/-- A state and one in which the same was read as it is spelled. -/
structure State.Spelled (spell : α → List β) (st : State α) (st' : State β) : Prop where
  mode : st'.mode = st.mode
  field : st'.field = st.field.flatMap spell
  fields : st'.fields = st.fields.map fun f => f.flatMap spell
  start : st'.start.line = st.start.line
  here : st'.here.line = st.here.line

namespace State.Spelled
variable {st : State α} {st' : State β}

theorem withMode (h : st.Spelled spell st') (mode : Mode) : { st with mode }.Spelled spell { st' with mode } :=
  ⟨rfl, h.field, h.fields, h.start, h.here⟩

theorem advance (h : st.Spelled spell st') (s : Symbol) :
    { st with here := st.here.advance s }.Spelled spell { st' with here := st'.here.advance s } where
  mode := h.mode
  field := h.field
  fields := h.fields
  start := h.start
  here := by simp only [Position.advance, h.here]

theorem put (h : st.Spelled spell st') (mode : Mode) {a : α} {b : β} (hspell : spell a = [b]) :
    (st.put mode a).Spelled spell (st'.put mode b) where
  mode := rfl
  field := by simp only [State.put, h.field, List.flatMap_append, List.flatMap_singleton, hspell]
  fields := h.fields
  start := h.start
  here := h.here

theorem endField (h : st.Spelled spell st') : st.endField.Spelled spell st'.endField where
  mode := rfl
  field := rfl
  fields := by simp [State.endField, h.fields, h.field]
  start := h.start
  here := h.here

theorem endRecord (h : st.Spelled spell st') : st.endRecord.Spelled spell st'.endRecord :=
  ⟨rfl, rfl, rfl, h.here, h.here⟩

theorem record (h : st.Spelled spell st') : st.record.Spelled spell st'.record where
  fields := by simp [State.record, h.fields, h.field]
  line := h.start

theorem finish (h : st.Spelled spell st') : List.Forall₂ (Record.Spelled spell) st.finish st'.finish := by
  rw [State.finish, State.finish, h.mode]
  split
  · exact .nil
  · exact .cons h.record .nil

/-- A symbol that is spelled by one with the same meaning. -/
theorem step (h : st.Spelled spell st') {a : α} {b : β} (hspell : spell a = [b]) (hsymbol : symbol' b = symbol a) :
    (st.step symbol a).1.Spelled spell (st'.step symbol' b).1 ∧
      Option.Rel (Record.Spelled spell) (st.step symbol a).2 (st'.step symbol' b).2 := by
  unfold State.step
  rw [hsymbol]
  generalize symbol a = s
  have hnext := h.advance s
  have hmode := h.mode
  obtain ⟨mode, field, fields, start, here⟩ := st
  obtain ⟨mode', field', fields', start', here'⟩ := st'
  obtain rfl : mode' = mode := hmode
  cases mode' <;> cases s <;>
    first
    | exact ⟨hnext, .none⟩
    | exact ⟨hnext.withMode _, .none⟩
    | exact ⟨hnext.put _ hspell, .none⟩
    | exact ⟨hnext.endField, .none⟩
    | exact ⟨hnext.endRecord, .some hnext.record⟩

end State.Spelled

/-! ### Plain symbols -/

/-- The state behind a plain symbol. -/
def State.plain (st : State α) (a : α) : State α :=
  { st with
    mode := if st.mode = .quoted then .quoted else .bare
    field := st.field ++ [a]
    here := st.here.advance .plain }

theorem step_plain (st : State α) {a : α} (h : symbol a = .plain) : st.step symbol a = (st.plain a, none) := by
  obtain ⟨mode, field, fields, start, here⟩ := st
  unfold State.step
  cases mode <;> rw [h] <;> rfl

theorem recordsFrom_plain {as : List α} (has : ∀ a ∈ as, symbol a = .plain) (st : State α) (rest : List α) :
    recordsFrom symbol st (as ++ rest) = recordsFrom symbol (as.foldl State.plain st) rest := by
  induction as generalizing st with
  | nil => rfl
  | cons a as ih =>
    obtain ⟨ha, has⟩ := List.forall_mem_cons.mp has
    rw [List.cons_append, recordsFrom, step_plain st ha]
    exact ih has (st.plain a)

theorem foldl_plain (st : State α) (a : α) (as : List α) :
    (a :: as).foldl State.plain st =
      { st with
        mode := if st.mode = .quoted then .quoted else .bare
        field := st.field ++ a :: as
        here := { line := st.here.line, offset := st.here.offset + as.length + 1 } } := by
  induction as generalizing st a with
  | nil => rfl
  | cons b as ih =>
    rw [List.foldl_cons, ih]
    by_cases hquoted : st.mode = .quoted <;> simp [State.plain, Position.advance, hquoted]
    all_goals omega

/-- A plain symbol that is spelled by plain ones. -/
theorem State.Spelled.plain {st : State α} {st' : State β} (h : st.Spelled spell st') {a : α} (hne : spell a ≠ []) :
    (st.plain a).Spelled spell ((spell a).foldl State.plain st') := by
  obtain ⟨b, bs, hspell⟩ := List.exists_cons_of_ne_nil hne
  rw [hspell, foldl_plain]
  refine ⟨?_, ?_, h.fields, h.start, h.here⟩
  · simp only [State.plain, h.mode]
  · simp only [State.plain, h.field, List.flatMap_append, List.flatMap_singleton, hspell]

/-! ### Records -/

/-- The records of a spelling are the spelled records, on the same lines. -/
theorem spelled_recordsFrom (hspells : Spells symbol symbol' spell) {st : State α} {st' : State β}
    (h : st.Spelled spell st') (as : List α) :
    List.Forall₂ (Record.Spelled spell) (recordsFrom symbol st as) (recordsFrom symbol' st' (as.flatMap spell)) := by
  induction as generalizing st st' with
  | nil => exact h.finish
  | cons a as ih =>
    rw [List.flatMap_cons]
    rcases hspells a with ⟨b, hspell, hsymbol⟩ | ⟨hsymbol, hne, hplain⟩
    · obtain ⟨hnext, hrecord⟩ := h.step hspell hsymbol
      rw [hspell, List.singleton_append, recordsFrom, recordsFrom]
      generalize st.step symbol a = x at hnext hrecord ⊢
      generalize st'.step symbol' b = x' at hnext hrecord ⊢
      obtain ⟨next, r⟩ := x
      obtain ⟨next', r'⟩ := x'
      cases hrecord with
      | none => exact ih hnext
      | some hr => exact .cons hr (ih hnext)
    · rw [recordsFrom, step_plain st hsymbol, recordsFrom_plain hplain]
      exact ih (h.plain hne)

end Telemetry.Csv
