import Telemetry.Numeral
import Telemetry.Double.Basic

/-! Doubles read from texts: an optional sign, then digits with an optional point among, before or
    behind them and an optional exponent, or a word for infinity or for what is not a number. The
    result is the double nearest to the value that the digits name. -/

namespace Telemetry
namespace Double

def isDigit (c : Char) : Bool := '0' ≤ c && c ≤ '9'

/-- A text in ASCII lower case. -/
def lower (cs : List Char) : List Char := cs.map Char.toLower

/-- The exponent behind the digits: nothing, or an `e` and an integer. -/
def exponent? : List Char → Option Int
  | [] => some 0
  | 'e' :: cs => Numeral.signed? 10 cs
  | 'E' :: cs => Numeral.signed? 10 cs
  | _ => none

/-- A number without its sign, as digits and exponent. -/
def decimal? (cs : List Char) : Option (Nat × Int) :=
  let whole := cs.takeWhile isDigit
  let rest := cs.dropWhile isDigit
  let (part, rest) : List Char × List Char :=
    match rest with
    | '.' :: r => (r.takeWhile isDigit, r.dropWhile isDigit)
    | r => ([], r)
  if whole.isEmpty && part.isEmpty then none
  else do
    let e ← exponent? rest
    let n ← Numeral.natural? 10 (whole ++ part)
    pure (n, e - part.length)

/-- A number without its sign. -/
def unsigned? (negative : Bool) (cs : List Char) : Option Double :=
  match decimal? cs with
  | some (n, e) => some (ofDecimal negative n e)
  | none =>
    let word := String.ofList (lower cs)
    if word = "inf" ∨ word = "infinity" then some (infinity negative)
    else if word = "nan" then some nan
    else none

/-- The double that a text names. -/
def ofChars? : List Char → Option Double
  | '-' :: cs => unsigned? true cs
  | '+' :: cs => unsigned? false cs
  | cs => unsigned? false cs

end Double
end Telemetry
