/-! Records of fields between commas. A record ends at the end of a line, lines without any character
    are skipped, and a field that begins with a quote runs to the quote that ends it, over commas and
    ends of lines; a quote within is written twice. Reading is one step per symbol, so that where the
    reader stands is part of its state. -/

namespace Telemetry
namespace Csv

/-- What a symbol does to the reader. -/
inductive Symbol where
  | comma
  | quote
  | newline
  | carriage
  | plain
  deriving DecidableEq, Repr

/-- The characters that are not plain. -/
def symbolOfChar : Char → Symbol
  | ',' => .comma
  | '"' => .quote
  | '\n' => .newline
  | '\r' => .carriage
  | _ => .plain

/-- Where the reader stands: the number of the line, from one, and the symbols behind. -/
structure Position where
  line : Nat := 1
  offset : Nat := 0
  deriving DecidableEq, Repr, Inhabited

/-- A record of fields of symbols in `α`. -/
structure Record (α : Type) where
  fields : List (List α)
  /-- Where the reader stood when the record before was complete. -/
  position : Position
  deriving DecidableEq, Repr, Inhabited

/-- What the symbols so far leave open. -/
inductive Mode where
  /-- No record has begun. -/
  | between
  | fieldStart
  | bare
  | quoted
  /-- Behind a quote within a quoted field. -/
  | closing
  deriving DecidableEq, Repr, Inhabited

/-- The state of the reader between two symbols. -/
structure State (α : Type) where
  mode : Mode := .between
  /-- The field that is being read. -/
  field : List α := []
  /-- The complete fields of the record that is being read. -/
  fields : List (List α) := []
  /-- Where the reader stood when the record before was complete. -/
  start : Position := {}
  here : Position := {}
  deriving DecidableEq, Repr, Inhabited

/-- One symbol further; only a newline begins a new line. -/
def Position.advance (p : Position) (s : Symbol) : Position :=
  { line := if s = .newline then p.line + 1 else p.line, offset := p.offset + 1 }

namespace State

variable {α : Type}

/-- With one more symbol of the field. -/
def put (st : State α) (mode : Mode) (a : α) : State α := { st with mode, field := st.field ++ [a] }

/-- With the field complete. -/
def endField (st : State α) : State α :=
  { st with mode := .fieldStart, field := [], fields := st.fields ++ [st.field] }

/-- The record that is complete with the field that is being read. -/
def record (st : State α) : Record α := { fields := st.fields ++ [st.field], position := st.start }

/-- The state once the record is complete. -/
def endRecord (st : State α) : State α := { start := st.here, here := st.here }

/-- One symbol: the state behind it, and the record that it completes. -/
def step (symbol : α → Symbol) (st : State α) (a : α) : State α × Option (Record α) :=
  let s := symbol a
  let st := { st with here := st.here.advance s }
  match st.mode, s with
  | .between, .newline | .between, .carriage => (st, none)
  | .between, .quote | .fieldStart, .quote => ({ st with mode := .quoted }, none)
  | .quoted, .quote => ({ st with mode := .closing }, none)
  | .quoted, _ => (st.put .quoted a, none)
  | .closing, .quote => (st.put .quoted a, none)
  | _, .comma => (st.endField, none)
  | _, .newline | _, .carriage => (st.endRecord, some st.record)
  | _, _ => (st.put .bare a, none)

/-- The record that is complete at the end of the input. -/
def finish (st : State α) : List (Record α) := if st.mode = .between then [] else [st.record]

end State

/-- The records that a state and the symbols to come give. -/
def recordsFrom {α : Type} (symbol : α → Symbol) : State α → List α → List (Record α)
  | st, [] => st.finish
  | st, a :: as =>
    match st.step symbol a with
    | (st, none) => recordsFrom symbol st as
    | (st, some r) => r :: recordsFrom symbol st as

/-- The records of a row of symbols. -/
def records {α : Type} (symbol : α → Symbol) (as : List α) : List (Record α) := recordsFrom symbol {} as

end Csv
end Telemetry
