import Telemetry.Text.Utf8
import Telemetry.Wire.Basic

/-! Messages: fields one after the other, each merged into what the fields before have given. A message
    within a message has a length, but its fields are read without regard to it and may not end beyond
    it. -/

namespace Telemetry
namespace Wire

/-- What a field adds to a message: the message before, the bytes behind the key, and the message after
    with the bytes behind the value. -/
abbrev Merge (α : Type) := Nat → WireType → α → List UInt8 → Except DecodeError (α × List UInt8)

/-- Reads fields while more than `left` bytes are left. -/
def readFields {α : Type} (merge : Merge α) (left : Nat) :
    Nat → α → List UInt8 → Except DecodeError (α × List UInt8)
  | 0, a, bs => .ok (a, bs)
  | fuel + 1, a, bs =>
    if bs.length ≤ left then .ok (a, bs)
    else
      match readKey bs with
      | .error f => .error (.ofFault f)
      | .ok ((tag, t), rest) =>
        match merge tag t a rest with
        | .error e => .error e
        | .ok (a, rest) => readFields merge left fuel a rest

/-- A message that takes all bytes. -/
def readMessage {α : Type} (merge : Merge α) (a : α) (bs : List UInt8) : Except DecodeError α :=
  (readFields merge 0 bs.length a bs).map Prod.fst

/-- Refuses values of any other layout than a length with bytes. -/
def checkDelimited (t : WireType) : Except Fault Unit :=
  if t = .lengthDelimited then .ok () else .error (.unexpectedType t .lengthDelimited)

/-- A text, with the bytes behind it. -/
def readText (t : WireType) (bs : List UInt8) : Except DecodeError (String × List UInt8) :=
  Except.mapError DecodeError.ofFault do
    checkDelimited t
    let (n, rest) ← readVarint bs
    if rest.length < n then .error .underflow
    else
      match Text.decode? (rest.take n) with
      | none => .error .invalidText
      | some s => .ok (s, rest.drop n)

/-- A message within a message, with the bytes behind it; `depth` more may stand one in the other. -/
def readNested {α : Type} (merge : Nat → Merge α) (empty : α) (depth : Nat) (t : WireType) (bs : List UInt8) :
    Except DecodeError (α × List UInt8) :=
  match checkDelimited t with
  | .error f => .error (.ofFault f)
  | .ok () =>
    if depth = 0 then .error (.ofFault .tooDeep)
    else
      match readVarint bs with
      | .error f => .error (.ofFault f)
      | .ok (n, rest) =>
        if rest.length < n then .error (.ofFault .underflow)
        else
          match readFields (merge (depth - 1)) (rest.length - n) rest.length empty rest with
          | .error e => .error e
          | .ok (a, behind) =>
            if behind.length = rest.length - n then .ok (a, behind) else .error (.ofFault .lengthExceeded)

/-- The bytes behind the value of a field that a message does not have. -/
def mergeUnknown {α : Type} (depth : Nat) : Merge α := fun tag t a bs =>
  match skipUnknown depth tag t bs with
  | .error f => .error (.ofFault f)
  | .ok rest => .ok (a, rest)

/-! ### Writing -/

/-- A text, which is left out if it is empty. -/
def textField (tag : Nat) (s : String) : List UInt8 :=
  if s.isEmpty then [] else key tag .lengthDelimited ++ delimited (Text.encode s)

/-- The texts of a field that repeats. -/
def textsField (tag : Nat) (ss : List String) : List UInt8 :=
  ss.flatMap fun s => key tag .lengthDelimited ++ delimited (Text.encode s)

/-- The messages of a field that repeats, each given by its bytes. -/
def messagesField (tag : Nat) (ms : List (List UInt8)) : List UInt8 :=
  ms.flatMap fun m => key tag .lengthDelimited ++ delimited m

end Wire
end Telemetry
