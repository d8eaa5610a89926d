import Telemetry.Numeral

/-! How much is logged: nothing, or the messages of some importance and all that are more important. -/

namespace Telemetry

/-- A level, by the least important messages that it lets through. -/
inductive LogLevel where
  | off
  | error
  | warn
  | info
  | debug
  | trace
  deriving DecidableEq, Repr, Inhabited

namespace LogLevel

def all : List LogLevel := [off, error, warn, info, debug, trace]

def name : LogLevel → String
  | off => "off"
  | error => "error"
  | warn => "warn"
  | info => "info"
  | debug => "debug"
  | trace => "trace"

/-- The level of a name, in any case of its letters, or of a number. -/
def ofChars? (cs : List Char) : Option LogLevel :=
  match Numeral.unsigned? 10 cs with
  | some n => all[n]?
  | none => all.find? fun l => l.name.toList == cs.map Char.toLower

end LogLevel
end Telemetry
