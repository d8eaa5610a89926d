import Telemetry.Numeral
import Telemetry.Text.Split

/-! Socket addresses: an address of four bytes, or of eight groups of sixteen bits in brackets, and a
    port. Reading takes every usual way to write one, and writing has one way for each. -/

namespace Telemetry

/-- The address of a socket. -/
inductive SocketAddress where
  | v4 (a b c d : UInt8) (port : UInt16)
  /-- Eight groups; the scope is zero if none is given. -/
  | v6 (groups : List UInt16) (scope : UInt32) (port : UInt16)
  deriving DecidableEq, Repr, Inhabited

namespace SocketAddress

/-! ### Reading -/

def isDigitOf (base : Nat) (c : Char) : Bool := (Numeral.digitValue? base c).isSome

/-- A number below a bound, with what follows it. -/
def readNumber (base bound : Nat) (most : Option Nat) (cs : List Char) : Option (Nat × List Char) := do
  let ds := cs.takeWhile (isDigitOf base)
  let n ← Numeral.natural? base ds
  if n < bound && most.all (ds.length ≤ ·) then some (n, cs.drop ds.length) else none

/-- A byte in decimal digits, without a zero in front of others. -/
def readByte (cs : List Char) : Option (UInt8 × List Char) := do
  let (n, rest) ← readNumber 10 256 (some 3) cs
  if cs.head? == some '0' && 1 < cs.length - rest.length then none else some (UInt8.ofNat n, rest)

def readChar (c : Char) : List Char → Option (List Char)
  | d :: cs => if d = c then some cs else none
  | [] => none

/-- Four bytes with points between them. -/
def readBytes (cs : List Char) : Option ((UInt8 × UInt8 × UInt8 × UInt8) × List Char) := do
  let (a, cs) ← readByte cs
  let (b, cs) ← readByte (← readChar '.' cs)
  let (c, cs) ← readByte (← readChar '.' cs)
  let (d, cs) ← readByte (← readChar '.' cs)
  pure ((a, b, c, d), cs)

/-- A colon and a port. -/
def readPort (cs : List Char) : Option (UInt16 × List Char) := do
  let (n, cs) ← readNumber 10 UInt16.size none (← readChar ':' cs)
  pure (UInt16.ofNat n, cs)

/-- Two bytes as a group. -/
def groupOf (a b : UInt8) : UInt16 := UInt16.ofNat (a.toNat * 256 + b.toNat)

/-- At most so many groups with colons between them, the last two of which may be four bytes; says
    whether they were. -/
def readGroups : Nat → Bool → List Char → List UInt16 × Bool × List Char
  | 0, _, cs => ([], false, cs)
  | room + 1, first, cs =>
    let start := if first then some cs else readChar ':' cs
    match start with
    | none => ([], false, cs)
    | some rest =>
      match (if 0 < room then readBytes rest else none), readNumber 16 UInt16.size (some 4) rest with
      | some ((a, b, c, d), rest), _ => ([groupOf a b, groupOf c d], true, rest)
      | none, some (n, rest) =>
        let (gs, bytes, rest) := readGroups room false rest
        (UInt16.ofNat n :: gs, bytes, rest)
      | none, none => ([], false, cs)

/-- Eight groups; two colons stand for as many zeros as are missing, which is at least one. -/
def readAll (cs : List Char) : Option (List UInt16 × List Char) :=
  let (front, bytes, rest) := readGroups 8 true cs
  if front.length = 8 then some (front, rest)
  else if bytes then none
  else do
    let rest ← readChar ':' (← readChar ':' rest)
    let (back, _, rest) := readGroups (7 - front.length) true rest
    pure (front ++ List.replicate (8 - front.length - back.length) 0 ++ back, rest)

/-- A percent sign and the number of a scope, if they are there. -/
def readScope (cs : List Char) : UInt32 × List Char :=
  match (readChar '%' cs).bind (readNumber 10 UInt32.size none) with
  | some (n, rest) => (UInt32.ofNat n, rest)
  | none => (0, cs)

def readV4 (cs : List Char) : Option SocketAddress := do
  let ((a, b, c, d), cs) ← readBytes cs
  let (port, cs) ← readPort cs
  if cs.isEmpty then some (.v4 a b c d port) else none

def readV6 (cs : List Char) : Option SocketAddress := do
  let (groups, cs) ← readAll (← readChar '[' cs)
  let (scope, cs) := readScope cs
  let (port, cs) ← readPort (← readChar ']' cs)
  if cs.isEmpty then some (.v6 groups scope port) else none

/-- The address that a text names. -/
def parse? (s : String) : Option SocketAddress := readV4 s.toList <|> readV6 s.toList

/-! ### Writing -/

/-- Start and length of the longest run of zeros, the first of those, behind `k` groups. -/
def longestZeros : Nat → List UInt16 → Nat × Nat
  | _, [] => (0, 0)
  | k, g :: gs =>
    let here := ((g :: gs).takeWhile (· == 0)).length
    let (start, length) := longestZeros (k + 1) gs
    if here = 0 || here < length then (start, length) else (k, here)

def writeGroups (gs : List UInt16) : List Char := Text.join ':' (gs.map fun g => Nat.toDigits 16 g.toNat)

/-- Eight groups, with two colons in place of the longest run of at least two zeros. An address of four
    bytes within them is written as such. -/
def writeAll (gs : List UInt16) : String :=
  match gs with
  | [0, 0, 0, 0, 0, 0xffff, x, y] =>
    s!"::ffff:{x.toNat / 256}.{x.toNat % 256}.{y.toNat / 256}.{y.toNat % 256}"
  | gs =>
    let (start, length) := longestZeros 0 gs
    if length < 2 then String.ofList (writeGroups gs)
    else String.ofList (writeGroups (gs.take start) ++ "::".toList ++ writeGroups (gs.drop (start + length)))

def text : SocketAddress → String
  | v4 a b c d port => s!"{a}.{b}.{c}.{d}:{port}"
  | v6 groups scope port =>
    let scopeText := if scope = 0 then "" else s!"%{scope}"
    s!"[{writeAll groups}{scopeText}]:{port}"

end SocketAddress
end Telemetry
