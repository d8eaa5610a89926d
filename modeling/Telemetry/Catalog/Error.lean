import Telemetry.Text.Quoted

/-! What can be wrong with a catalog of counters. Every fault but that of opening its file has a place
    in the text. -/

namespace Telemetry

/-- Why a catalog is refused. -/
inductive CatalogError where
  | unopened (path : String) (reason : String)
  | unreadable (reason : String)
  /-- The bytes of a field are no text, from its byte number `byte` on. -/
  | invalidText (record line field offset byte : Nat)
  | fieldCount (line found : Nat)
  | unknownField (line : Nat) (name : String)
  | unknownType (line : Nat) (value : String)
  deriving DecidableEq, Repr

namespace CatalogError

open Text

/-- Where the bytes of a field are no text. -/
def invalidPlace (field byte : Nat) : String := s!"invalid utf-8: invalid UTF-8 in field {field} near byte index {byte}"

/-- The record and the field whose bytes are no text. -/
def invalidRecord (record line field offset byte : Nat) : String :=
  s!"CSV parse error: record {record} (line {line}, field: {field}, byte: {offset}): {invalidPlace field byte}"

def message : CatalogError → String
  | unopened path reason => s!"Failed to open counter file {quoted path}: {reason}"
  | unreadable reason => s!"Malformed counter file: {reason}"
  | invalidText record line field offset byte =>
    s!"Malformed counter file: {invalidRecord record line field offset byte}"
  | fieldCount line found => s!"Line {line}: expected 3 fields, found {found}"
  | unknownField line name => s!"Line {line}: could not find field {quoted name}"
  | unknownType line value =>
    s!"Line {line}: {quoted value} is not one of gauge, counter, histogram or summary"

/-- The texts of what is behind a fault, from the outside in. -/
def sources : CatalogError → List String
  | unopened _ reason => [reason]
  | unreadable reason => [reason]
  | invalidText record line field offset byte =>
    [invalidRecord record line field offset byte, invalidPlace field byte]
  | fieldCount .. | unknownField .. | unknownType .. => []

end CatalogError
end Telemetry
