/-! Whole numbers as texts: the value of a row of digits to some base, with no sign, with an optional
    plus, or with either sign. Only ASCII digits and letters count; an empty row has no value. -/

namespace Telemetry
namespace Numeral

/-- The value of a digit below `base`; letters of either case follow nine. -/
def digitValue? (base : Nat) (c : Char) : Option Nat :=
  let n := c.toNat
  let v :=
    if 48 ≤ n && n ≤ 57 then some (n - 48)
    else if 97 ≤ n && n ≤ 122 then some (n - 87)
    else if 65 ≤ n && n ≤ 90 then some (n - 55)
    else none
  v.filter (· < base)

/-- The number that digit values spell, the first being the most significant. -/
def ofDigitValues (base : Nat) (ds : List Nat) : Nat := ds.foldl (fun n d => n * base + d) 0

/-- The value of at least one digit and nothing else. -/
def natural? (base : Nat) (cs : List Char) : Option Nat :=
  if cs.isEmpty then none else (cs.mapM (digitValue? base)).map (ofDigitValues base)

/-- As `natural?`, behind an optional plus. -/
def unsigned? (base : Nat) : List Char → Option Nat
  | '+' :: cs => natural? base cs
  | cs => natural? base cs

/-- As `natural?`, behind an optional plus or minus. -/
def signed? (base : Nat) : List Char → Option Int
  | '-' :: cs => (natural? base cs).map fun n => -(n : Int)
  | '+' :: cs => (natural? base cs).map fun n => (n : Int)
  | cs => (natural? base cs).map fun n => (n : Int)

/-- A number below `2 ^ 16`. -/
def word16? (cs : List Char) : Option UInt16 :=
  ((unsigned? 10 cs).filter (· < UInt16.size)).map UInt16.ofNat

/-- A number below `2 ^ 32`. -/
def word32? (cs : List Char) : Option UInt32 :=
  ((unsigned? 10 cs).filter (· < UInt32.size)).map UInt32.ofNat

/-- A number below `2 ^ 64`. -/
def word64? (cs : List Char) : Option UInt64 :=
  ((unsigned? 10 cs).filter (· < UInt64.size)).map UInt64.ofNat

/-- Whether an integer is held by 64 bits with a sign. -/
def fitsInt64 (n : Int) : Bool := -Int.pow 2 63 ≤ n && n < Int.pow 2 63

/-- An integer to some base that 64 bits with a sign hold. -/
def int64? (base : Nat) (cs : List Char) : Option Int64 :=
  ((signed? base cs).filter fitsInt64).map Int64.ofInt

end Numeral
end Telemetry
