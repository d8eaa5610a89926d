/-! Spans of time as people write them: the largest units first, each as often as it fits. -/

namespace Telemetry
namespace Text

/-- The units with their length in milliseconds; a year has 365.25 days and a month a twelfth of it, up to
    the minute. The last field says whether the name changes in the plural. -/
def timeUnits : List (String × Nat × Bool) :=
  [ ("year", 31557600000, true), ("month", 2630016000, true), ("day", 86400000, true), ("h", 3600000, false),
    ("m", 60000, false), ("s", 1000, false), ("ms", 1, false) ]

/-- The parts of a span, given the units that are left. -/
def durationParts : List (String × Nat × Bool) → Nat → List String
  | [], _ => []
  | (name, length, hasPlural) :: units, n =>
    let count := n / length
    let rest := durationParts units (n % length)
    let plural := if hasPlural && 1 < count then "s" else ""
    if count = 0 then rest else s!"{count}{name}{plural}" :: rest

/-- A number of milliseconds. -/
def duration (milliseconds : Nat) : String :=
  match durationParts timeUnits milliseconds with
  | [] => "0s"
  | parts => " ".intercalate parts

end Text
end Telemetry
