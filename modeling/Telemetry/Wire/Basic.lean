/-! Protocol buffers: numbers in groups of seven bits, keys that give the number of a field and how its
    value is laid out, and what is wrong with bytes that are no message. -/

namespace Telemetry
namespace Wire

/-- How the value of a field is laid out. -/
inductive WireType where
  | varint
  | sixtyFourBit
  | lengthDelimited
  | startGroup
  | endGroup
  | thirtyTwoBit
  deriving DecidableEq, Repr

namespace WireType

def code : WireType → Nat
  | varint => 0
  | sixtyFourBit => 1
  | lengthDelimited => 2
  | startGroup => 3
  | endGroup => 4
  | thirtyTwoBit => 5

def all : List WireType := [varint, sixtyFourBit, lengthDelimited, startGroup, endGroup, thirtyTwoBit]

/-- The layout with this code. -/
def ofCode? (n : Nat) : Option WireType := all.find? fun t => t.code == n

/-- The name of a layout, as messages give it. -/
def name : WireType → String
  | varint => "Varint"
  | sixtyFourBit => "SixtyFourBit"
  | lengthDelimited => "LengthDelimited"
  | startGroup => "StartGroup"
  | endGroup => "EndGroup"
  | thirtyTwoBit => "ThirtyTwoBit"

end WireType

/-- What is wrong with some bytes. -/
inductive Fault where
  | invalidVarint
  | invalidKey (key : Nat)
  | invalidWireType (code : Nat)
  | invalidTag
  | unexpectedType (actual expected : WireType)
  | underflow
  | lengthExceeded
  | invalidText
  | unexpectedEndGroup
  | tooDeep
  deriving DecidableEq, Repr

def Fault.message : Fault → String
  | invalidVarint => "invalid varint"
  | invalidKey key => s!"invalid key value: {key}"
  | invalidWireType code => s!"invalid wire type value: {code}"
  | invalidTag => "invalid tag value: 0"
  | unexpectedType actual expected => s!"invalid wire type: {actual.name} (expected {expected.name})"
  | underflow => "buffer underflow"
  | lengthExceeded => "delimited length exceeded"
  | invalidText => "invalid string value: data is not UTF-8 encoded"
  | unexpectedEndGroup => "unexpected end group tag"
  | tooDeep => "recursion limit reached"

/-- A fault with the fields that it is in, the innermost first. -/
structure DecodeError where
  path : List (String × String) := []
  fault : Fault
  deriving DecidableEq, Repr

namespace DecodeError

def message (e : DecodeError) : String :=
  "failed to decode Protobuf message: " ++ String.join (e.path.map fun (m, f) => s!"{m}.{f}: ") ++ e.fault.message

/-- A fault within a field of a message. -/
def within (message field : String) (e : DecodeError) : DecodeError := { e with path := e.path ++ [(message, field)] }

def ofFault (f : Fault) : DecodeError := { fault := f }

end DecodeError

/-! ### Numbers -/

/-- The bytes of a number, the lowest seven bits first. -/
def varint (n : Nat) : List UInt8 :=
  if n < 128 then [UInt8.ofNat n] else UInt8.ofNat (n % 128 + 128) :: varint (n / 128)

/-- The number of bits that the groups before have; a tenth group may hold a single bit. -/
def readVarintFrom (shift : Nat) : List UInt8 → Except Fault (Nat × List UInt8)
  | [] => .error .invalidVarint
  | b :: bs =>
    if 63 < shift then .error .invalidVarint
    else if b.toNat < 128 then
      if shift = 63 ∧ 1 < b.toNat then .error .invalidVarint else .ok (b.toNat * Nat.pow 2 shift, bs)
    else
      match readVarintFrom (shift + 7) bs with
      | .error e => .error e
      | .ok (n, rest) => .ok ((b.toNat - 128) * Nat.pow 2 shift + n, rest)

/-- A number of at most 64 bits, with the bytes behind it. -/
def readVarint (bs : List UInt8) : Except Fault (Nat × List UInt8) := readVarintFrom 0 bs

/-! ### Keys -/

/-- The key of a field with values of some layout. -/
def key (tag : Nat) (t : WireType) : List UInt8 := varint (tag * 8 + t.code)

/-- The number of a field and the layout of its value, with the bytes behind the key. -/
def readKey (bs : List UInt8) : Except Fault ((Nat × WireType) × List UInt8) := do
  let (k, rest) ← readVarint bs
  if UInt32.size ≤ k then .error (.invalidKey k)
  else
    match WireType.ofCode? (k % 8) with
    | none => .error (.invalidWireType (k % 8))
    | some t => if k / 8 = 0 then .error .invalidTag else .ok ((k / 8, t), rest)

/-! ### Values -/

/-- The bytes of a value behind their number. -/
def delimited (bytes : List UInt8) : List UInt8 := varint bytes.length ++ bytes

/-- So many bytes are skipped. -/
def skipBytes (n : Nat) (bs : List UInt8) : Except Fault (List UInt8) :=
  if bs.length < n then .error .underflow else .ok (bs.drop n)

mutual

/-- Skips a value. A group has all fields up to its end; `depth` groups may stand one in the other. -/
def skipValue (fuel depth tag : Nat) (t : WireType) (bs : List UInt8) : Except Fault (List UInt8) :=
  match fuel with
  | 0 => .error .underflow
  | fuel + 1 =>
    if depth = 0 then .error .tooDeep
    else
      match t with
      | .varint => (readVarint bs).map Prod.snd
      | .sixtyFourBit => skipBytes 8 bs
      | .thirtyTwoBit => skipBytes 4 bs
      | .lengthDelimited => do
        let (n, rest) ← readVarint bs
        skipBytes n rest
      | .startGroup => skipGroup fuel depth tag bs
      | .endGroup => .error .unexpectedEndGroup

/-- Skips the fields of a group and its end. -/
def skipGroup (fuel depth tag : Nat) (bs : List UInt8) : Except Fault (List UInt8) :=
  match fuel with
  | 0 => .error .underflow
  | fuel + 1 => do
    let ((inner, t), rest) ← readKey bs
    if t = .endGroup then if inner = tag then .ok rest else .error .unexpectedEndGroup
    else do
      let rest ← skipValue fuel (depth - 1) inner t rest
      skipGroup fuel depth tag rest

end

/-- The number of messages and groups that may stand one in the other. -/
def maxDepth : Nat := 100

/-- Skips the value of a field that a message does not have. -/
def skipUnknown (depth tag : Nat) (t : WireType) (bs : List UInt8) : Except Fault (List UInt8) :=
  skipValue (2 * bs.length + 2) depth tag t bs

end Wire
end Telemetry
