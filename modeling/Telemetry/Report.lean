import Telemetry.Device.Error

/-! Reports of failures: what failed at the bottom, and around it what was being done, from the outside
    in. Contexts never hide the failure of a device manager. -/

namespace Telemetry

/-- What is at the bottom of a report. -/
inductive Cause where
  | device (e : DeviceError)
  /-- Any other failure, with the texts of its own causes behind its text. -/
  | other (message : String) (sources : List String)
  deriving DecidableEq, Repr

def Cause.messages : Cause → List String
  | device e => [e.message]
  | other message sources => message :: sources

/-- A report. -/
structure Report where
  /-- What was being done, the outermost first. -/
  contexts : List String := []
  cause : Cause
  deriving DecidableEq, Repr

namespace Report

/-- A report of a failure of which only a text is known. -/
def ofText (s : String) : Report := { cause := .other s [] }

def ofDevice (e : DeviceError) : Report := { cause := .device e }

/-- The report with one more context around it. -/
def wrap (context : String) (r : Report) : Report := { r with contexts := context :: r.contexts }

/-- All texts, from the outside in. -/
def messages (r : Report) : List String := r.contexts ++ r.cause.messages

/-- Whether the failure ends the session with the device manager. -/
def isFatal (r : Report) : Bool :=
  match r.cause with
  | .device e => e.isFatal
  | .other .. => false

@[simp] theorem isFatal_wrap (context : String) (r : Report) : (r.wrap context).isFatal = r.isFatal := rfl

end Report
end Telemetry
