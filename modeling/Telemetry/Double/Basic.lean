/-! Binary floating-point numbers of 64 bits, held as their bits: one sign bit, eleven of the exponent
    and 52 of the fraction. Rounding a quotient of whole numbers to the nearest double, ties to the
    even neighbour, is exact arithmetic on naturals; every other operation goes through it. -/

namespace Telemetry

/-- A double, as the word that holds it. -/
structure Double where
  bits : UInt64
  deriving DecidableEq, Repr, Inhabited

namespace Double

/-- Whether the sign bit is set; zero has either sign. -/
def isNegative (x : Double) : Bool := Nat.pow 2 63 ≤ x.bits.toNat

/-- Exponent and fraction, as the number that the bits below the sign hold. -/
def magnitudeBits (x : Double) : Nat := x.bits.toNat % Nat.pow 2 63

/-- The bits below the sign that stand for infinity; those above are not numbers. -/
def infinityBits : Nat := 2047 * Nat.pow 2 52

def isNaN (x : Double) : Bool := infinityBits < x.magnitudeBits

def isInfinite (x : Double) : Bool := x.magnitudeBits == infinityBits

def isFinite (x : Double) : Bool := x.magnitudeBits < infinityBits

def isZero (x : Double) : Bool := x.magnitudeBits == 0

/-- The double with this sign and these bits below it. -/
def ofMagnitudeBits (negative : Bool) (bits : Nat) : Double :=
  ⟨UInt64.ofNat ((if negative then Nat.pow 2 63 else 0) + bits)⟩

def infinity (negative : Bool) : Double := ofMagnitudeBits negative infinityBits

def nan : Double := ofMagnitudeBits false (infinityBits + Nat.pow 2 51)

/-- The whole number `m` of a finite double of absolute value `m * 2 ^ (e - 1074)`, `e` being
    `scale`. -/
def significand (x : Double) : Nat :=
  if x.magnitudeBits < Nat.pow 2 52 then x.magnitudeBits else Nat.pow 2 52 + x.magnitudeBits % Nat.pow 2 52

/-- The exponent above the smallest, which subnormal and the smallest normal doubles share. -/
def scale (x : Double) : Nat := x.magnitudeBits / Nat.pow 2 52 - 1

/-- Numerator and denominator of the absolute value of a finite double. -/
def ratio (x : Double) : Nat × Nat :=
  if 1074 ≤ x.scale then (x.significand * Nat.pow 2 (x.scale - 1074), 1)
  else (x.significand, Nat.pow 2 (1074 - x.scale))

/-- The whole number nearest to `num / den`, a tie going to the even neighbour. -/
def roundToEven (num den : Nat) : Nat :=
  let q := num / den
  let r := num % den
  if 2 * r < den then q
  else if den < 2 * r then q + 1
  else if q % 2 = 0 then q
  else q + 1

/-- The scale at which `num / den` has a significand of 53 bits, or the smallest scale. -/
def scaleOf (num den : Nat) : Nat :=
  let n := Nat.log2 num + 1074
  let d := Nat.log2 den
  if n < d + 52 then 0
  else
    let s := n - d - 52
    let full := if 1074 ≤ s + 52 then num < den * Nat.pow 2 (s + 52 - 1074) else num * Nat.pow 2 (1074 - s - 52) < den
    if full then s - 1 else s

/-- The double nearest to `num / den`, with the sign given; values too large become infinite. -/
def ofRatio (negative : Bool) (num den : Nat) : Double :=
  if num = 0 then ofMagnitudeBits negative 0
  else
    let s := scaleOf num den
    let m :=
      if 1074 ≤ s then roundToEven num (den * Nat.pow 2 (s - 1074))
      else roundToEven (num * Nat.pow 2 (1074 - s)) den
    ofMagnitudeBits negative (min infinityBits (s * Nat.pow 2 52 + m))

/-- The double nearest to a whole number. -/
def ofInt (n : Int) : Double := ofRatio (n < 0) n.natAbs 1

/-- The double nearest to `± digits * 10 ^ exponent`. -/
def ofDecimal (negative : Bool) (digits : Nat) (exponent : Int) : Double :=
  let size := (Nat.log2 digits : Int)
  if digits = 0 then ofMagnitudeBits negative 0
  else if 3 * exponent + size > 2100 ∧ 0 < exponent then infinity negative
  else if 3 * exponent + size < -4300 then ofMagnitudeBits negative 0
  else if 0 ≤ exponent then ofRatio negative (digits * Nat.pow 10 exponent.toNat) 1
  else ofRatio negative digits (Nat.pow 10 (-exponent).toNat)

/-- The double nearest to the product of two finite doubles. -/
def mul (x y : Double) : Double :=
  ofRatio (x.isNegative != y.isNegative) (x.ratio.1 * y.ratio.1) (x.ratio.2 * y.ratio.2)

/-- The double nearest to the quotient of two finite doubles, the second of which is not zero. -/
def div (x y : Double) : Double :=
  ofRatio (x.isNegative != y.isNegative) (x.ratio.1 * y.ratio.2) (x.ratio.2 * y.ratio.1)

/-- The whole number nearest to a finite double, ties away from zero. -/
def roundAway (x : Double) : Int :=
  let n := (2 * x.ratio.1 + x.ratio.2) / (2 * x.ratio.2)
  if x.isNegative then -(n : Int) else n

end Double
end Telemetry
