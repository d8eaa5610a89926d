import Telemetry.Json.Basic
import Telemetry.Selection.Reading

/-! Rules as JSON values: the text of the rules, and nothing else. -/

namespace Telemetry
namespace SelectionRules

/-- The value that holds the rules. -/
def toJson (r : SelectionRules) : Json := .string r.render

/-- The rules that a value holds, or why its text is refused; none if it is no text. -/
def ofJson? : Json → Option (Except SelectionError SelectionRules)
  | .string s => some (parse s)
  | _ => none

end SelectionRules
end Telemetry
