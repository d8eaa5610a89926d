/-! The signals that end a lifetime of the exporter. Only the hangup asks for another lifetime. -/

namespace Telemetry

/-- A signal to the exporter. -/
inductive Signal where
  | hangup
  | interrupt
  | terminate
  | quit
  deriving DecidableEq, Repr, Inhabited

namespace Signal

def all : List Signal := [hangup, interrupt, terminate, quit]

def name : Signal → String
  | hangup => "SIGHUP"
  | interrupt => "SIGINT"
  | terminate => "SIGTERM"
  | quit => "SIGQUIT"

/-- Whether the exporter starts anew after it has stopped. -/
def restarts : Signal → Bool
  | hangup => true
  | _ => false

end Signal
end Telemetry
