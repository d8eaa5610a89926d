import Telemetry.Double.Basic

/-! The shortest decimal text of a double: the fewest significant digits that read back as the same
    double, of two such the nearer to its value, written without an exponent. -/

namespace Telemetry
namespace Double

/-- The number of digits that a positive ratio has before the point, less the zeros that follow the
    point when it has none: the `k` with `10 ^ (k - 1) ≤ num / den < 10 ^ k`. The search starts at a
    bound from above. -/
def decimalExponent (num den : Nat) : Nat → Int → Int
  | 0, k => k
  | fuel + 1, k =>
    let below := if 0 ≤ k - 1 then num < den * Nat.pow 10 (k - 1).toNat else num * Nat.pow 10 (1 - k).toNat < den
    if below then decimalExponent num den fuel (k - 1) else k

/-- The decimal exponent of a finite double that is not zero. -/
def exponent10 (x : Double) : Int := decimalExponent x.ratio.1 x.ratio.2 700 310

/-- Of the two multiples of `10 ^ e` around the value, the ones that read back, the nearer first. -/
def candidates (x : Double) (e : Int) : List Nat :=
  let (num, den) := x.ratio
  let (n, d) := if 0 ≤ e then (num, den * Nat.pow 10 e.toNat) else (num * Nat.pow 10 (-e).toNat, den)
  let low := n / d
  let pair := if 2 * (n % d) ≤ d then [low, low + 1] else [low + 1, low]
  pair.filter fun c => c ≠ 0 ∧ ofDecimal x.isNegative c e = x

/-- The digits and their exponent with the fewest digits that read back, among `p` digits and more. With no
    digits the only candidate is the power of ten just above the value. -/
def shortestFrom (x : Double) (k : Int) : Nat → Nat → Nat × Int
  | 0, p => (((candidates x (k - p)).head?).getD 0, k - p)
  | fuel + 1, p =>
    match (candidates x (k - p)).head? with
    | some c => (c, k - p)
    | none => shortestFrom x k fuel (p + 1)

/-- The digits of `n` with `e` zeros behind them, or with a point before the last `-e`. -/
def positional (n : Nat) (e : Int) : List Char :=
  let ds := Nat.toDigits 10 n
  if 0 ≤ e then ds ++ List.replicate e.toNat '0'
  else
    let places := (-e).toNat
    let padded := List.replicate (places + 1 - ds.length) '0' ++ ds
    padded.take (padded.length - places) ++ '.' :: padded.drop (padded.length - places)

/-- The shortest text of a double; infinity is `inf`, and what is not a number `NaN`. -/
def shortest (x : Double) : String :=
  let sign := if x.isNegative then "-" else ""
  if x.isNaN then "NaN"
  else if x.isInfinite then sign ++ "inf"
  else if x.isZero then sign ++ "0"
  else
    let (c, e) := shortestFrom x x.exponent10 18 0
    sign ++ String.ofList (positional c e)

end Double
end Telemetry
