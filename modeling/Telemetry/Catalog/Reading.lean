import Telemetry.Catalog.Counter
import Telemetry.Catalog.Error
import Telemetry.Csv
import Telemetry.Text.Blank
import Telemetry.Text.Utf8

/-! Catalogs: records of the name of a field, a type and a help text. Records without any text and
    those whose first field begins with `#` do not count; the first fault ends the reading. -/

namespace Telemetry
namespace Catalog

open Text

/-- Whether a record, its fields trimmed, stands for no counter. -/
def isIgnored (fields : List String) : Bool :=
  fields.all String.isEmpty || (fields.head?.any fun f => f.toList.head? == some '#')

/-- The counter of a record whose fields are trimmed. -/
def readCounter (line : Nat) : List String → Except CatalogError Counter
  | [name, type, help] =>
    match Field.byName? name, MetricType.ofName? type with
    | none, _ => .error (.unknownField line name)
    | some _, none => .error (.unknownType line type)
    | some f, some t => .ok { field := f.id, name, type := t, help }
  | fields => .error (.fieldCount line fields.length)

/-- The counters of records, each given by its line and its trimmed fields. -/
def readRecords : List (Nat × List String) → Except CatalogError (List Counter)
  | [] => .ok []
  | (line, fields) :: rs =>
    if isIgnored fields then readRecords rs
    else do
      let c ← readCounter line fields
      let cs ← readRecords rs
      pure (c :: cs)

/-- Line and trimmed fields of a record. -/
def lineAndFields (r : Csv.Record Char) : Nat × List String :=
  (r.position.line, r.fields.map fun cs => String.ofList (trim cs))

/-- The characters behind a byte order mark, if there is one. -/
def dropMark : List Char → List Char
  | '\ufeff' :: cs => cs
  | cs => cs

/-- The counters of a catalog given as characters. -/
def ofChars (cs : List Char) : Except CatalogError (List Counter) :=
  readRecords ((Csv.records Csv.symbolOfChar (dropMark cs)).map lineAndFields)

/-- The counters of a catalog. -/
def parse (s : String) : Except CatalogError (List Counter) := ofChars s.toList

/-! ### Bytes that are no text -/

/-- The role of a byte; every byte of a character beyond ASCII is plain. -/
def symbolOfByte (b : UInt8) : Csv.Symbol := Csv.symbolOfChar (Char.ofNat b.toNat)

/-- The blank bytes that are cut off in front of a field before its text is read. -/
def isBlankByte (b : UInt8) : Bool := b == 0x20 || b == 0x09 || b == 0x0a || b == 0x0c || b == 0x0d

/-- The text of a field, or the number of the first byte that belongs to no character. -/
def fieldText (bytes : List UInt8) : Except Nat String :=
  let bytes := bytes.dropWhile isBlankByte
  match decode? bytes with
  | some s => .ok s
  | none => .error (decodePrefix bytes).2

/-- The texts of fields, `k` being the number of the first of them. -/
def fieldTexts : Nat → List (List UInt8) → Except (Nat × Nat) (List String)
  | _, [] => .ok []
  | k, f :: fs =>
    match fieldText f with
    | .error n => .error (k, n)
    | .ok s => (fieldTexts (k + 1) fs).map (s :: ·)

/-- The counters of records of bytes, `k` being the number of the first of them. -/
def readByteRecords : Nat → List (Csv.Record UInt8) → Except CatalogError (List Counter)
  | _, [] => .ok []
  | k, r :: rs =>
    match fieldTexts 0 r.fields with
    | .error (f, n) => .error (.invalidText k r.position.line f r.position.offset n)
    | .ok texts =>
      let fields := texts.map trimmed
      if isIgnored fields then readByteRecords (k + 1) rs
      else do
        let c ← readCounter r.position.line fields
        let cs ← readByteRecords (k + 1) rs
        pure (c :: cs)

/-- The state of the reader behind a byte order mark, if there is one, and the bytes to come. -/
def afterMark : List UInt8 → Csv.State UInt8 × List UInt8
  | 0xef :: 0xbb :: 0xbf :: bytes => ({ here := { offset := 3 } }, bytes)
  | bytes => ({}, bytes)

/-- The counters of a catalog given as bytes. -/
def ofBytes (bytes : List UInt8) : Except CatalogError (List Counter) :=
  match decode? bytes with
  | some s => parse s
  | none =>
    let (st, rest) := afterMark bytes
    readByteRecords 0 (Csv.recordsFrom symbolOfByte st rest)

/-- The counters of the catalog in a file, given its bytes or why it cannot be opened. -/
def ofFile (path : String) (content : Except String (List UInt8)) : Except CatalogError (List Counter) :=
  match content with
  | .error reason => .error (.unopened path reason)
  | .ok bytes => ofBytes bytes

end Catalog
end Telemetry
