import Telemetry.Double.Reading
import Telemetry.Logging.Level
import Telemetry.Logging.Pattern
import Telemetry.Text.Alphanumeric
import Telemetry.Text.Blank
import Telemetry.Text.Quoted
import Telemetry.Text.Split

/-! Filters for the log. A filter is a row of directives with commas between them; empty ones do not
    count. A directive is a level, or it names a target, a span in brackets and fields of the span in
    braces, and may give the level for these behind an equals sign. -/

namespace Telemetry

/-- A field of a span that a directive asks for. -/
structure FieldCondition where
  name : String
  /-- What the value of the field has to match, if it matters. -/
  value : Option String
  deriving DecidableEq, Repr, Inhabited

/-- A directive. -/
structure Directive where
  level : LogLevel := .trace
  target : Option String := none
  span : Option String := none
  fields : List FieldCondition := []
  deriving DecidableEq, Repr, Inhabited

namespace Directive

open Text

/-- What the characters of a directive are part of; a piece that is kept has a first byte. -/
inductive Part where
  | nothing
  | name (first : Nat)
  | span (first : Nat)
  | field (first : Nat)
  | fields
  | target
  | level (first : Nat)
  deriving DecidableEq, Repr

/-! ### Pieces -/

/-- The characters from a byte on. -/
def fromByte : Nat → List Char → List Char
  | 0, cs => cs
  | _, [] => []
  | n, c :: cs => fromByte (n - c.utf8Size) cs

/-- The characters that begin within some bytes. -/
def withinBytes : Nat → List Char → List Char
  | 0, _ => []
  | _, [] => []
  | n, c :: cs => c :: withinBytes (n - c.utf8Size) cs

/-- The characters from one byte up to another. -/
def piece (text : List Char) (first last : Nat) : List Char := withinBytes (last - first) (fromByte first text)

/-- Whether a value can be matched: numbers and truth values can, and so can patterns. -/
def isMatchable (cs : List Char) : Bool :=
  (Numeral.word64? cs).isSome || (Numeral.int64? 10 cs).isSome || (Double.ofChars? cs).isSome || Pattern.isPattern cs

/-- The condition that a piece states: a name, and behind an equals sign a value. -/
def condition? (cs : List Char) : Option FieldCondition :=
  match cs, split '=' cs with
  | [], _ | _, [] => none
  | _, [name] => some { name := String.ofList name, value := none }
  | _, name :: value :: _ =>
    if isMatchable value then some { name := String.ofList name, value := some (String.ofList value) } else none

/-- The level of a piece; nothing stands for every level. -/
def level? (cs : List Char) : Option LogLevel := if cs.isEmpty then some .trace else LogLevel.ofChars? cs

/-- Whether a directive may begin with a character. -/
def mayBegin (c : Char) : Bool := c == '-' || c == ':' || c == '_' || isAlphanumeric c

/-! ### Reading -/

/-- A character more, at byte `i`, of a directive that was read so far. The pieces are those of the whole
    text, blanks at its ends included. -/
def step (text : List Char) (i : Nat) (c : Char) : Part × Directive → Option (Part × Directive)
  | (.nothing, d) =>
    if c = '[' then some (.span (i + 1), d)
    else if mayBegin c then some (.name i, d)
    else none
  | (.name first, d) =>
    let target := some (String.ofList (piece text first i))
    if c = '=' then some (.level (i + 1), { d with target })
    else if c = '[' then some (.span (i + 1), { d with target })
    else some (.name first, d)
  | (.span first, d) =>
    let span := piece text first i
    if c = ']' then some (.target, { d with span := some (String.ofList span) })
    else if c = '\x7b' then
      some (.field (i + 1), { d with span := if span.isEmpty then none else some (String.ofList span) })
    else some (.span first, d)
  | (.field first, d) =>
    if c = '\x7d' then
      (condition? (piece text first i)).map fun x => (.fields, { d with fields := d.fields ++ [x] })
    else some (.field first, d)
  | (.fields, d) => if c = ']' then some (.target, d) else none
  | (.target, d) => if c = '=' then some (.level (i + 1), d) else none
  | (.level first, d) => some (.level first, d)

/-- Reads characters from byte `i` on. -/
def read (text : List Char) : Nat → List Char → Part × Directive → Option (Part × Directive)
  | _, [], x => some x
  | i, c :: cs, x => (step text i c x).bind (read text (i + c.utf8Size) cs)

/-- The directive at the end of the text. A name alone is that of a level, or of a target. -/
def finish (text : List Char) : Part × Directive → Option Directive
  | (.name first, d) =>
    let name := fromByte first text
    match LogLevel.ofChars? name with
    | some level => some { d with level }
    | none => some { d with target := some (String.ofList name) }
  | (.level first, d) => (level? (fromByte first text)).map fun level => { d with level }
  | (.target, d) => some d
  | _ => none

/-- The directive that a text is. -/
def ofChars? (text : List Char) : Option Directive := (read text 0 (trim text) (.nothing, {})).bind (finish text)

end Directive

namespace LogFilter

open Text

/-- The directives of a filter. -/
def parse? (s : String) : Option (List Directive) :=
  ((split ',' s.toList).filter fun cs => !cs.isEmpty).mapM Directive.ofChars?

/-- What is said of a text that is no filter. -/
def invalid (s : String) : String := s!"Invalid log filter {quoted s}"

end LogFilter
end Telemetry
