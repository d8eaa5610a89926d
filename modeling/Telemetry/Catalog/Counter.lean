import Telemetry.Device.Field

/-! Counters: which field to collect, and under which type and help text to show it. -/

namespace Telemetry

/-- The types of metrics. -/
inductive MetricType where
  | gauge
  | counter
  | histogram
  | summary
  deriving DecidableEq, Repr, Inhabited

namespace MetricType

def all : List MetricType := [gauge, counter, histogram, summary]

def name : MetricType → String
  | gauge => "gauge"
  | counter => "counter"
  | histogram => "histogram"
  | summary => "summary"

/-- The type with this name. -/
def ofName? (s : String) : Option MetricType := all.find? fun t => t.name == s

theorem ofName?_name (t : MetricType) : ofName? t.name = some t := by cases t <;> decide

end MetricType

/-- A counter. -/
structure Counter where
  field : FieldId
  name : String
  type : MetricType
  help : String
  deriving DecidableEq, Repr, Inhabited

end Telemetry
