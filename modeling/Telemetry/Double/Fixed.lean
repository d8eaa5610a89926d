import Telemetry.Double.Basic

/-! Doubles written with a fixed number of places. The digits are those of the exact value, rounded
    at the last place; a value half way between two goes to the even last digit, and the sign of a
    negative double stays even where every digit is zero. -/

namespace Telemetry
namespace Double

/-- The last `places` digits of `n`, with zeros in front where `n` has fewer. -/
def lastDigits : Nat → Nat → List Char
  | 0, _ => []
  | places + 1, n => lastDigits places (n / 10) ++ [Nat.digitChar (n % 10)]

/-- The absolute value of a finite double in units of the last of `places` places. -/
def scaled (places : Nat) (x : Double) : Nat :=
  roundToEven (x.ratio.1 * Nat.pow 10 places) x.ratio.2

/-- A finite double with `places` digits behind the point. -/
def fixedChars (places : Nat) (x : Double) : List Char :=
  let n := scaled places x
  (if x.isNegative then ['-'] else []) ++ Nat.toDigits 10 (n / Nat.pow 10 places) ++ '.' :: lastDigits places n

/-- As `fixedChars`, as a text. -/
def fixed (places : Nat) (x : Double) : String := String.ofList (fixedChars places x)

end Double
end Telemetry
