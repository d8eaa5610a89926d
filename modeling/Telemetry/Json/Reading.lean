import Telemetry.Json.Basic
import Telemetry.Numeral

/-! JSON texts. A number without point and exponent is an integer where 64 bits hold it. Any other is
    the double of its leading digits, as many as 64 bits hold, scaled by a power of ten; the digits,
    the power and the result are each rounded. -/

namespace Telemetry
namespace Json

def isSpace (c : Char) : Bool := c == ' ' || c == '\n' || c == '\r' || c == '\t'

def skipSpace (cs : List Char) : List Char := cs.dropWhile isSpace

/-! ### Numbers -/

/-- The parts of a number: its sign, the digits before and behind the point, and the exponent. -/
structure Literal where
  negative : Bool
  whole : List Char
  fraction : Option (List Char)
  exponent : Option (List Char)

/-- The exponent behind the digits, with what follows it. -/
def readExponent (cs : List Char) : Option (Option (List Char) × List Char) :=
  let digits (sign : List Char) (r : List Char) : Option (Option (List Char) × List Char) :=
    let ds := r.takeWhile Char.isDigit
    if ds.isEmpty then none else some (some (sign ++ ds), r.dropWhile Char.isDigit)
  let signed (r : List Char) :=
    match r with
    | '-' :: r => digits ['-'] r
    | '+' :: r => digits [] r
    | r => digits [] r
  match cs with
  | 'e' :: r => signed r
  | 'E' :: r => signed r
  | r => some (none, r)

/-- A number, with what follows it. No digit may follow a zero in front of a number. -/
def readLiteral (cs : List Char) : Option (Literal × List Char) := do
  let (negative, cs) := match cs with | '-' :: r => (true, r) | r => (false, r)
  let whole := cs.takeWhile Char.isDigit
  let cs := cs.dropWhile Char.isDigit
  guard (!whole.isEmpty && (whole.head? != some '0' || whole.length == 1))
  let (fraction, cs) ←
    match cs with
    | '.' :: r =>
      let ds := r.takeWhile Char.isDigit
      if ds.isEmpty then none else some (some ds, r.dropWhile Char.isDigit)
    | r => some (none, r)
  let (exponent, cs) ← readExponent cs
  pure ({ negative, whole, fraction, exponent }, cs)

/-- The leading digits that 64 bits hold with `n` in front of them, and the number of digits left. -/
def takeWord : Nat → List Nat → Nat × Nat
  | n, [] => (n, 0)
  | n, d :: ds => if UInt64.size ≤ n * 10 + d then (n, ds.length + 1) else takeWord (n * 10 + d) ds

def digitValues (cs : List Char) : List Nat := cs.map fun c => c.toNat - 48

/-- A double scaled by a power of ten, or none if the result is too large. -/
def scale (x : Double) (e : Int) : Option Double :=
  let power (k : Nat) : Double := .ofRatio false (Nat.pow 10 k) 1
  if x.isZero then some x
  else if 308 < e then none
  else if 0 ≤ e then
    let y := x.mul (power e.toNat)
    if y.isInfinite then none else some y
  else if -308 ≤ e then some (x.div (power (-e).toNat))
  else
    let y := x.div (power 308)
    if e < -700 then some (.ofMagnitudeBits x.isNegative 0) else some (y.div (power (-e - 308).toNat))

/-- The double that a number stands for. -/
def Literal.double? (l : Literal) : Option Double :=
  let (n, rest) := takeWord 0 (digitValues l.whole)
  let places := digitValues (l.fraction.getD [])
  let (n, left) := takeWord n places
  let e := (l.exponent.bind (Numeral.signed? 10)).getD 0
  scale (.ofRatio l.negative n 1) (rest - (places.length - left : Nat) + e)

/-- The value that a number stands for. -/
def Literal.value? (l : Literal) : Option Json :=
  let n := Numeral.ofDigitValues 10 (digitValues l.whole)
  if l.fraction.isSome || l.exponent.isSome then l.double?.map double
  else if l.negative then
    if n = 0 then some (double (.ofMagnitudeBits true 0))
    else if n ≤ Nat.pow 2 63 then some (int (-n))
    else l.double?.map double
  else if n < UInt64.size then some (int n)
  else l.double?.map double

/-! ### Texts -/

/-- Four hexadecimal digits. -/
def readHex (a b c d : Char) : Option Nat := Numeral.natural? 16 [a, b, c, d]

/-- The character that a letter behind a backslash stands for. -/
def escaped? : Char → Option Char
  | '"' => some '"'
  | '\\' => some '\\'
  | '/' => some '/'
  | 'b' => some '\x08'
  | 'f' => some '\x0c'
  | 'n' => some '\n'
  | 'r' => some '\r'
  | 't' => some '\t'
  | _ => none

/-- The characters up to the closing quote, in reverse behind `acc`, and what follows the quote. -/
def readChars (acc : List Char) : List Char → Option (List Char × List Char)
  | [] => none
  | '"' :: cs => some (acc, cs)
  | '\\' :: 'u' :: a :: b :: c :: d :: '\\' :: 'u' :: e :: f :: g :: h :: cs => do
    let n ← readHex a b c d
    if 0xd800 ≤ n ∧ n < 0xdc00 then
      let m ← readHex e f g h
      if 0xdc00 ≤ m ∧ m < 0xe000 then
        readChars (Char.ofNat (0x10000 + (n - 0xd800) * 0x400 + (m - 0xdc00)) :: acc) cs
      else none
    else if 0xdc00 ≤ n ∧ n < 0xe000 then none
    else readChars (Char.ofNat n :: acc) ('\\' :: 'u' :: e :: f :: g :: h :: cs)
  | '\\' :: 'u' :: a :: b :: c :: d :: cs => do
    let n ← readHex a b c d
    if 0xd800 ≤ n ∧ n < 0xe000 then none else readChars (Char.ofNat n :: acc) cs
  | '\\' :: c :: cs => do
    let x ← escaped? c
    readChars (x :: acc) cs
  | c :: cs => if c.toNat < 0x20 then none else readChars (c :: acc) cs
  termination_by cs => cs.length

/-- The text up to the closing quote, and what follows the quote. -/
def readString (cs : List Char) : Option (String × List Char) :=
  (readChars [] cs).map fun (r, rest) => (String.ofList r.reverse, rest)

/-! ### Values -/

mutual

/-- A value, with what follows it; `fuel` bounds the number of values and members. -/
def readValue (fuel : Nat) (cs : List Char) : Option (Json × List Char) :=
  match fuel with
  | 0 => none
  | fuel + 1 =>
    match skipSpace cs with
    | 'n' :: 'u' :: 'l' :: 'l' :: r => some (null, r)
    | 't' :: 'r' :: 'u' :: 'e' :: r => some (bool true, r)
    | 'f' :: 'a' :: 'l' :: 's' :: 'e' :: r => some (bool false, r)
    | '"' :: r => (readString r).map fun (s, r) => (string s, r)
    | '[' :: r =>
      match skipSpace r with
      | ']' :: r => some (array [], r)
      | r => (readElements fuel r).map fun (xs, r) => (array xs, r)
    | '\x7b' :: r =>
      match skipSpace r with
      | '\x7d' :: r => some (object [], r)
      | r => (readMembers fuel r).map fun (ms, r) => (object ms, r)
    | r => do
      let (l, r) ← readLiteral r
      let v ← l.value?
      pure (v, r)

/-- The elements up to the closing bracket. -/
def readElements (fuel : Nat) (cs : List Char) : Option (List Json × List Char) :=
  match fuel with
  | 0 => none
  | fuel + 1 => do
    let (x, r) ← readValue fuel cs
    match skipSpace r with
    | ',' :: r =>
      let (xs, r) ← readElements fuel r
      pure (x :: xs, r)
    | ']' :: r => pure ([x], r)
    | _ => none

/-- The members up to the closing brace. -/
def readMembers (fuel : Nat) (cs : List Char) : Option (List (String × Json) × List Char) :=
  match fuel with
  | 0 => none
  | fuel + 1 =>
    match skipSpace cs with
    | '"' :: r => do
      let (key, r) ← readString r
      match skipSpace r with
      | ':' :: r =>
        let (x, r) ← readValue fuel r
        match skipSpace r with
        | ',' :: r =>
          let (ms, r) ← readMembers fuel r
          pure ((key, x) :: ms, r)
        | '\x7d' :: r => pure ([(key, x)], r)
        | _ => none
      | _ => none
    | _ => none

end

/-- The value that a text stands for. -/
def parse? (s : String) : Option Json :=
  let cs := s.toList
  match readValue (cs.length + 1) cs with
  | some (v, r) => if (skipSpace r).isEmpty then some v else none
  | none => none

end Json
end Telemetry
