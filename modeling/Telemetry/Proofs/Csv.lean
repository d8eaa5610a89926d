import Telemetry.Csv

/-! What the reader of records makes of a text, whatever stands behind it. Records are the same, but for their
    places, wherever the reader has come from; a quoted field is read as the text that was quoted; and a record
    that has begun keeps what it began with. -/

namespace Telemetry.Csv

variable {α : Type} {symbol : α → Symbol}

/-! ### Rows -/

/-- The fields of the records that a state and the symbols to come give. -/
def rowsFrom (symbol : α → Symbol) (st : State α) (as : List α) : List (List (List α)) :=
  (recordsFrom symbol st as).map Record.fields

/-- Two states that differ in their places only. -/
structure State.Like (st st' : State α) : Prop where
  mode : st.mode = st'.mode
  field : st.field = st'.field
  fields : st.fields = st'.fields

theorem State.Like.step {st st' : State α} (h : st.Like st') (symbol : α → Symbol) (a : α) :
    (st.step symbol a).1.Like (st'.step symbol a).1 ∧
      (st.step symbol a).2.map Record.fields = (st'.step symbol a).2.map Record.fields := by
  obtain ⟨mode, field, fields, start, here⟩ := st
  obtain ⟨mode', field', fields', start', here'⟩ := st'
  obtain ⟨rfl, rfl, rfl⟩ := h
  unfold State.step
  cases mode <;> cases symbol a <;> exact ⟨⟨rfl, rfl, rfl⟩, rfl⟩

theorem rowsFrom_cons (st : State α) (a : α) (as : List α) :
    rowsFrom symbol st (a :: as) =
      ((st.step symbol a).2.map Record.fields).toList ++ rowsFrom symbol (st.step symbol a).1 as := by
  rw [rowsFrom, recordsFrom]
  rcases st.step symbol a with ⟨next, _ | r⟩ <;> rfl

/-- Rows do not depend on places. -/
theorem rowsFrom_congr {st st' : State α} (h : st.Like st') (as : List α) :
    rowsFrom symbol st as = rowsFrom symbol st' as := by
  induction as generalizing st st' with
  | nil =>
    rw [rowsFrom, rowsFrom, recordsFrom, recordsFrom, State.finish, State.finish, h.mode]
    split
    · rfl
    · simp [State.record, h.field, h.fields]
  | cons a as ih =>
    obtain ⟨hnext, hrow⟩ := h.step symbol a
    rw [rowsFrom_cons, rowsFrom_cons, hrow, ih hnext]

/-- A symbol leads from one state to another, whatever their places, and completes no record. -/
def Leads (symbol : α → Symbol) (st : State α) (a : α) (next : State α) : Prop :=
  (st.step symbol a).2 = none ∧ (st.step symbol a).1.Like next

theorem Leads.rowsFrom_eq {st next : State α} {a : α} (h : Leads symbol st a next) (as : List α) :
    rowsFrom symbol st (a :: as) = rowsFrom symbol next as := by
  rw [rowsFrom_cons, h.1, rowsFrom_congr h.2]
  rfl

theorem Leads.of_like {st st' next : State α} (hlike : st.Like st') {a : α} (h : Leads symbol st' a next) :
    Leads symbol st a next := by
  obtain ⟨hstep, hrow⟩ := hlike.step symbol a
  rw [h.1, Option.map_none, Option.map_eq_none_iff] at hrow
  exact ⟨hrow, hstep.mode.trans h.2.mode, hstep.field.trans h.2.field, hstep.fields.trans h.2.fields⟩

/-! ### Reading on -/

/-- Reads some symbols: the state behind them, and the records that they complete. -/
def read (symbol : α → Symbol) : State α → List α → State α × List (Record α)
  | st, [] => (st, [])
  | st, a :: as =>
    let next := st.step symbol a
    let rest := read symbol next.1 as
    (rest.1, next.2.toList ++ rest.2)

theorem read_cons {st : State α} {a : α} (h : (st.step symbol a).2 = none) (as : List α) :
    read symbol st (a :: as) = read symbol (st.step symbol a).1 as := by
  rw [read, h]
  rfl

theorem read_append (st : State α) (as bs : List α) :
    read symbol st (as ++ bs) =
      ((read symbol (read symbol st as).1 bs).1, (read symbol st as).2 ++ (read symbol (read symbol st as).1 bs).2) := by
  induction as generalizing st with
  | nil => rfl
  | cons a as ih => rw [List.cons_append, read, ih, read, List.append_assoc]

theorem recordsFrom_append (symbol : α → Symbol) (st : State α) (as bs : List α) :
    recordsFrom symbol st (as ++ bs) = (read symbol st as).2 ++ recordsFrom symbol (read symbol st as).1 bs := by
  induction as generalizing st with
  | nil => rfl
  | cons a as ih =>
    rw [List.cons_append, recordsFrom, read]
    rcases st.step symbol a with ⟨next, _ | r⟩
    · exact ih next
    · exact congrArg (r :: ·) (ih next)

/-- Where no record is open, all of them are complete. -/
theorem recordsFrom_of_between {st : State α} {as : List α} (h : (read symbol st as).1.mode = .between) :
    recordsFrom symbol st as = (read symbol st as).2 := by
  have happend := recordsFrom_append symbol st as []
  rwa [List.append_nil, recordsFrom, State.finish, if_pos h, List.append_nil] at happend

theorem rowsFrom_append (symbol : α → Symbol) (st : State α) (as bs : List α) :
    rowsFrom symbol st (as ++ bs) =
      (read symbol st as).2.map Record.fields ++ rowsFrom symbol (read symbol st as).1 bs := by
  rw [rowsFrom, recordsFrom_append, List.map_append, rowsFrom]

/-- Whether a quoted field is open behind some symbols. -/
def LeavesOpen (symbol : α → Symbol) (as : List α) : Prop := (read symbol {} as).1.mode = .quoted

instance (symbol : α → Symbol) (as : List α) : Decidable (LeavesOpen symbol as) := inferInstanceAs (Decidable (_ = _))

/-- A symbol that ends a line. -/
def EndsLine (symbol : α → Symbol) (a : α) : Prop := symbol a = .newline ∨ symbol a = .carriage

instance (symbol : α → Symbol) (a : α) : Decidable (EndsLine symbol a) := inferInstanceAs (Decidable (_ ∨ _))

/-! ### Between records -/

/-- Where no record has begun, nothing is left of the one before. -/
def State.Settled (st : State α) : Prop := st.mode = .between → st.Like {}

theorem State.Settled.step {st : State α} (h : st.Settled) (a : α) : (st.step symbol a).1.Settled := by
  obtain ⟨mode, field, fields, start, here⟩ := st
  unfold State.step
  cases mode with
  | between =>
    obtain ⟨-, rfl, rfl⟩ := h rfl
    cases symbol a <;> first | exact fun _ => ⟨rfl, rfl, rfl⟩ | exact nofun
  | _ => cases symbol a <;> first | exact fun _ => ⟨rfl, rfl, rfl⟩ | exact nofun

theorem settled_read {st : State α} (h : st.Settled) (as : List α) : (read symbol st as).1.Settled := by
  induction as generalizing st with
  | nil => exact h
  | cons a as ih => exact ih (h.step a)

theorem settled_start : ({} : State α).Settled := fun _ => ⟨rfl, rfl, rfl⟩

theorem step_mode_of_endsLine {st : State α} {a : α} (hmode : st.mode ≠ .quoted) (h : EndsLine symbol a) :
    (st.step symbol a).1.mode = .between := by
  obtain ⟨mode, field, fields, start, here⟩ := st
  unfold State.step
  cases mode <;> rcases h with h | h <;> rw [h] <;> first | rfl | exact absurd rfl hmode

/-- Behind a line end at which no quoted field is open, the reader is as at the beginning. -/
theorem like_of_endsLine {st : State α} (hst : st.Settled) (hmode : st.mode ≠ .quoted) {as : List α} (hne : as ≠ [])
    (has : ∀ a ∈ as, EndsLine symbol a) : (read symbol st as).1.Like {} := by
  refine settled_read hst as ?_
  induction as generalizing st with
  | nil => exact absurd rfl hne
  | cons a as ih =>
    obtain ⟨ha, has⟩ := List.forall_mem_cons.mp has
    have hbetween : (st.step symbol a).1.mode = .between := step_mode_of_endsLine hmode ha
    by_cases hnil : as = []
    · rw [hnil]
      exact hbetween
    · exact ih (hst.step a) (by simp [hbetween]) hnil has

theorem leads_line_end {a : α} (h : EndsLine symbol a) : Leads symbol {} a {} := by
  unfold Leads State.step
  rcases h with h | h <;> rw [h] <;> exact ⟨rfl, rfl, rfl, rfl⟩

theorem rowsFrom_line_ends {as : List α} (has : ∀ a ∈ as, EndsLine symbol a) (rest : List α) :
    rowsFrom symbol {} (as ++ rest) = rowsFrom symbol {} rest := by
  induction as with
  | nil => rfl
  | cons a as ih =>
    obtain ⟨ha, has⟩ := List.forall_mem_cons.mp has
    rw [List.cons_append, (leads_line_end ha).rowsFrom_eq, ih has]

/-- Line ends at the end of the input complete the record that would be complete anyway. -/
theorem rowsFrom_final {st : State α} (hst : st.Settled) (hmode : st.mode ≠ .quoted) {as : List α}
    (has : ∀ a ∈ as, EndsLine symbol a) : rowsFrom symbol st as = rowsFrom symbol st [] := by
  cases as with
  | nil => rfl
  | cons a as =>
    obtain ⟨ha, has⟩ := List.forall_mem_cons.mp has
    have hlike : (st.step symbol a).1.Like {} := hst.step a (step_mode_of_endsLine hmode ha)
    have hfirst : rowsFrom symbol st [a] = rowsFrom symbol st [] := by
      obtain ⟨mode, field, fields, start, here⟩ := st
      unfold rowsFrom recordsFrom State.step
      cases mode with
      | quoted => exact absurd rfl hmode
      | _ => rcases ha with h | h <;> rw [h] <;> rfl
    have hrest := rowsFrom_line_ends has []
    rw [List.append_nil] at hrest
    rw [← hfirst, rowsFrom_cons, rowsFrom_cons, rowsFrom_congr hlike, rowsFrom_congr hlike, hrest]

/-! ### Within a record -/

/-- A record has begun, and its first field begins with some symbols. -/
structure State.Begun (start : List α) (st : State α) : Prop where
  mode : st.mode ≠ .between
  head : ∃ f fs, st.fields ++ [st.field] = f :: fs ∧ start <+: f

/-- A record that has begun keeps its beginning until it is complete. -/
theorem State.Begun.step {start : List α} {st : State α} (h : st.Begun start) (a : α) :
    ((st.step symbol a).2 = none → (st.step symbol a).1.Begun start) ∧
      ∀ r, (st.step symbol a).2 = some r → ∃ f fs, r.fields = f :: fs ∧ start <+: f := by
  obtain ⟨mode, field, fields, origin, here⟩ := st
  obtain ⟨hmode, f, fs, hhead, hstart⟩ := h
  have hput : ∃ g gs, fields ++ [field ++ [a]] = g :: gs ∧ start <+: g := by
    cases fields with
    | nil =>
      cases hhead
      exact ⟨_, _, rfl, hstart.trans (List.prefix_append field [a])⟩
    | cons g gs =>
      cases hhead
      exact ⟨_, _, rfl, hstart⟩
  have hcomma : ∃ g gs, fields ++ [field] ++ [[]] = g :: gs ∧ start <+: g :=
    ⟨f, fs ++ [[]], by rw [show fields ++ [field] = f :: fs from hhead, List.cons_append], hstart⟩
  unfold State.step
  cases mode with
  | between => exact absurd rfl hmode
  | _ =>
    cases symbol a <;>
      first
      | exact ⟨fun _ => ⟨nofun, hput⟩, nofun⟩
      | exact ⟨fun _ => ⟨nofun, hcomma⟩, nofun⟩
      | exact ⟨fun _ => ⟨nofun, f, fs, hhead, hstart⟩, nofun⟩
      | exact ⟨nofun, fun r hr => by cases hr; exact ⟨f, fs, hhead, hstart⟩⟩

theorem read_bare {st : State α} {field : List α} {fields : List (List α)}
    (hst : st.Like { mode := .bare, field, fields }) {as : List α} (has : ∀ a ∈ as, symbol a = .plain) :
    (read symbol st as).1.Like { mode := .bare, field := field ++ as, fields } ∧ (read symbol st as).2 = [] := by
  induction as generalizing st field with
  | nil =>
    rw [List.append_nil]
    exact ⟨hst, rfl⟩
  | cons a as ih =>
    obtain ⟨ha, has⟩ := List.forall_mem_cons.mp has
    have hstep : Leads symbol st a { mode := .bare, field := field ++ [a], fields } := by
      refine Leads.of_like hst ?_
      unfold Leads State.step
      rw [ha]
      exact ⟨rfl, rfl, rfl, rfl⟩
    rw [List.append_cons, read_cons hstep.1]
    exact ih hstep.2 has

/-- Plain symbols begin a record whose first field begins with them. -/
theorem begun_read_plain {as : List α} (hne : as ≠ []) (has : ∀ a ∈ as, symbol a = .plain) :
    (read symbol {} as).1.Begun as ∧ (read symbol {} as).2 = [] := by
  obtain ⟨a, as, rfl⟩ := List.exists_cons_of_ne_nil hne
  obtain ⟨ha, has⟩ := List.forall_mem_cons.mp has
  have hstep : Leads symbol {} a { mode := .bare, field := [a] } := by
    unfold Leads State.step
    rw [ha]
    exact ⟨rfl, rfl, rfl, rfl⟩
  obtain ⟨hlike, hrecords⟩ := read_bare hstep.2 has
  rw [read_cons hstep.1]
  refine ⟨⟨fun hbetween => ?_, a :: as, [], ?_, List.prefix_rfl⟩, hrecords⟩
  · cases hlike.mode.symm.trans hbetween
  · rw [hlike.fields, hlike.field]
    rfl

theorem step_of_not_endsLine {st : State α} {a : α} (h : ¬ EndsLine symbol a) : (st.step symbol a).2 = none := by
  obtain ⟨mode, field, fields, start, here⟩ := st
  have hne : symbol a ≠ .newline ∧ symbol a ≠ .carriage := not_or.mp h
  unfold State.step
  cases mode <;> cases hs : symbol a <;> first | rfl | exact absurd hs hne.1 | exact absurd hs hne.2

/-- Symbols that do not end a line complete no record. -/
theorem read_of_not_endsLine {as : List α} (has : ∀ a ∈ as, ¬ EndsLine symbol a) (st : State α) :
    (read symbol st as).2 = [] := by
  induction as generalizing st with
  | nil => rfl
  | cons a as ih =>
    obtain ⟨ha, has⟩ := List.forall_mem_cons.mp has
    rw [read_cons (step_of_not_endsLine ha), ih has]

/-- Without a quote no field is quoted. -/
theorem read_of_not_quote {st : State α} (hmode : st.mode ≠ .quoted) {as : List α} (has : ∀ a ∈ as, symbol a ≠ .quote) :
    (read symbol st as).1.mode ≠ .quoted := by
  induction as generalizing st with
  | nil => exact hmode
  | cons a as ih =>
    obtain ⟨ha, has⟩ := List.forall_mem_cons.mp has
    refine ih ?_ has
    obtain ⟨mode, field, fields, start, here⟩ := st
    unfold State.step
    cases mode with
    | quoted => exact absurd rfl hmode
    | _ => cases hs : symbol a <;> first | exact absurd hs ha | exact nofun

/-- What stands behind an open quote, without another quote, belongs to the field. -/
theorem read_quoted {st : State α} (hmode : st.mode = .quoted) {as : List α} (has : ∀ a ∈ as, symbol a ≠ .quote) :
    (read symbol st as).1.mode = .quoted ∧ (read symbol st as).2 = [] := by
  induction as generalizing st with
  | nil => exact ⟨hmode, rfl⟩
  | cons a as ih =>
    obtain ⟨ha, has⟩ := List.forall_mem_cons.mp has
    have hstep : (st.step symbol a).2 = none ∧ (st.step symbol a).1.mode = .quoted := by
      rw [State.step, hmode]
      cases hs : symbol a <;> first | exact absurd hs ha | exact ⟨rfl, rfl⟩
    rw [read_cons hstep.1]
    exact ih hstep.2 has

theorem State.Begun.read {start : List α} {st : State α} (h : st.Begun start) {as : List α}
    (hnone : (read symbol st as).2 = []) : (read symbol st as).1.Begun start := by
  induction as generalizing st with
  | nil => exact h
  | cons a as ih =>
    obtain ⟨hstep, hrest⟩ := List.append_eq_nil_iff.mp hnone
    exact ih ((h.step a).1 (Option.toList_eq_nil_iff.mp hstep)) hrest

/-- A record that has begun and whose quoted fields are closed is complete at the end of the line. -/
theorem State.Begun.rowsFrom_line_end {start : List α} {st : State α} (h : st.Begun start) (hmode : st.mode ≠ .quoted)
    {a : α} (ha : EndsLine symbol a) (as : List α) :
    ∃ f fs, rowsFrom symbol st (a :: as) = (f :: fs) :: rowsFrom symbol {} as ∧ start <+: f := by
  have hstep : (∃ r, (st.step symbol a).2 = some r) ∧ (st.step symbol a).1.Like {} := by
    have hbegun := h.mode
    obtain ⟨mode, field, fields, origin, here⟩ := st
    unfold State.step
    cases mode <;> rcases ha with ha | ha <;> rw [ha] <;>
      first | exact absurd rfl hbegun | exact absurd rfl hmode | exact ⟨⟨_, rfl⟩, rfl, rfl, rfl⟩
  obtain ⟨⟨r, hr⟩, hlike⟩ := hstep
  obtain ⟨f, fs, hfields, hstart⟩ := (h.step a).2 r hr
  refine ⟨f, fs, ?_, hstart⟩
  rw [rowsFrom_cons, hr, rowsFrom_congr hlike]
  simp [hfields]

/-- A record that has begun is complete at the end of the input. -/
theorem State.Begun.rowsFrom_nil {start : List α} {st : State α} (h : st.Begun start) (symbol : α → Symbol) :
    ∃ f fs, rowsFrom symbol st [] = [f :: fs] ∧ start <+: f := by
  obtain ⟨f, fs, hfields, hstart⟩ := h.head
  refine ⟨f, fs, ?_, hstart⟩
  rw [rowsFrom, recordsFrom, State.finish, if_neg h.mode]
  exact congrArg (fun fs => [fs]) hfields

/-! ### Quoted fields -/

/-- Symbols as they stand between quotes: a quote among them is written twice. -/
def doubled (symbol : α → Symbol) (as : List α) : List α :=
  as.flatMap fun a => if symbol a = .quote then [a, a] else [a]

/-- A field between quotes. -/
def quotedField (symbol : α → Symbol) (quote : α) (as : List α) : List α := quote :: doubled symbol as ++ [quote]

/-- Fields between quotes, with commas between them. -/
def quotedRow (symbol : α → Symbol) (quote comma : α) : List (List α) → List α
  | [] => []
  | [f] => quotedField symbol quote f
  | f :: fs => quotedField symbol quote f ++ comma :: quotedRow symbol quote comma fs

section Quotes
variable {a quote comma ending : α} {mode : Mode} {field : List α} {fields : List (List α)}

theorem leads_opening (h : symbol a = .quote) (hmode : mode = .between ∨ mode = .fieldStart) :
    Leads symbol { mode, fields } a { mode := .quoted, fields } := by
  unfold Leads State.step
  rcases hmode with rfl | rfl <;> rw [h] <;> exact ⟨rfl, rfl, rfl, rfl⟩

theorem leads_within (h : symbol a ≠ .quote) :
    Leads symbol { mode := .quoted, field, fields } a { mode := .quoted, field := field ++ [a], fields } := by
  unfold Leads State.step
  cases hs : symbol a <;> first | exact absurd hs h | exact ⟨rfl, rfl, rfl, rfl⟩

theorem leads_closing (h : symbol a = .quote) :
    Leads symbol { mode := .quoted, field, fields } a { mode := .closing, field, fields } := by
  unfold Leads State.step
  rw [h]
  exact ⟨rfl, rfl, rfl, rfl⟩

theorem leads_second (h : symbol a = .quote) :
    Leads symbol { mode := .closing, field, fields } a { mode := .quoted, field := field ++ [a], fields } := by
  unfold Leads State.step
  rw [h]
  exact ⟨rfl, rfl, rfl, rfl⟩

theorem leads_comma (h : symbol a = .comma) :
    Leads symbol { mode := .closing, field, fields } a { mode := .fieldStart, fields := fields ++ [field] } := by
  unfold Leads State.step
  rw [h]
  exact ⟨rfl, rfl, rfl, rfl⟩

theorem rowsFrom_closed (h : EndsLine symbol a) (rest : List α) :
    rowsFrom symbol { mode := .closing, field, fields } (a :: rest) =
      (fields ++ [field]) :: rowsFrom symbol {} rest := by
  let st : State α := { mode := .closing, field, fields }
  have hstep : (st.step symbol a).2.map Record.fields = some (fields ++ [field]) ∧ (st.step symbol a).1.Like {} := by
    unfold State.step
    rcases h with h | h <;> rw [h] <;> exact ⟨rfl, rfl, rfl, rfl⟩
  rw [rowsFrom_cons, hstep.1, rowsFrom_congr hstep.2]
  rfl

theorem rowsFrom_doubled (hquote : symbol quote = .quote) (as field rest : List α) :
    rowsFrom symbol { mode := .quoted, field, fields } (doubled symbol as ++ quote :: rest) =
      rowsFrom symbol { mode := .closing, field := field ++ as, fields } rest := by
  induction as generalizing field with
  | nil =>
    rw [List.append_nil]
    exact (leads_closing hquote).rowsFrom_eq rest
  | cons a as ih =>
    rw [List.append_cons field a as, ← ih (field ++ [a]), doubled, List.flatMap_cons, List.append_assoc]
    split
    · next ha =>
      -- The first of two quotes might close the field; the second one says that it does not.
      exact ((leads_closing ha).rowsFrom_eq _).trans ((leads_second ha).rowsFrom_eq _)
    · next ha => exact (leads_within ha).rowsFrom_eq _

/-- A quoted field is read as what was quoted; what stands behind it decides how the record goes on. -/
theorem rowsFrom_quotedField (hquote : symbol quote = .quote) (hmode : mode = .between ∨ mode = .fieldStart)
    (as rest : List α) :
    rowsFrom symbol { mode, fields } (quotedField symbol quote as ++ rest) =
      rowsFrom symbol { mode := .closing, field := as, fields } rest := by
  rw [quotedField, List.append_assoc, List.cons_append, (leads_opening hquote hmode).rowsFrom_eq]
  exact rowsFrom_doubled hquote as [] rest

/-- A record of quoted fields is read as these fields. -/
theorem rowsFrom_quotedRow (hquote : symbol quote = .quote) (hcomma : symbol comma = .comma)
    (hending : EndsLine symbol ending) (hmode : mode = .between ∨ mode = .fieldStart) {fs : List (List α)}
    (hne : fs ≠ []) (rest : List α) :
    rowsFrom symbol { mode, fields } (quotedRow symbol quote comma fs ++ ending :: rest) =
      (fields ++ fs) :: rowsFrom symbol {} rest := by
  induction fs generalizing mode fields with
  | nil => exact absurd rfl hne
  | cons f fs ih =>
    cases fs with
    | nil => rw [quotedRow, rowsFrom_quotedField hquote hmode, rowsFrom_closed hending]
    | cons g gs =>
      have hnext (fields : List (List α)) := @ih .fieldStart fields (.inr rfl) (List.cons_ne_nil g gs)
      rw [List.append_cons fields f (g :: gs), ← hnext, ← (leads_comma hcomma).rowsFrom_eq, quotedRow,
        List.append_assoc, rowsFrom_quotedField hquote hmode, List.cons_append]
      exact List.cons_ne_nil g gs

end Quotes

end Telemetry.Csv
