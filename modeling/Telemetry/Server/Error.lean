import Telemetry.Report
import Telemetry.Server.Address

/-! What can go wrong with the server of the metrics. -/

namespace Telemetry

/-- Why there is no server, or none any more. -/
inductive ServerError where
  | unbound (address : SocketAddress) (reason : String)
  | failed (reason : String)
  deriving DecidableEq, Repr

namespace ServerError

def message : ServerError → String
  | unbound address reason => s!"Failed to bind the metrics server to {address.text}: {reason}"
  | failed reason => s!"The metrics server failed: {reason}"

/-- What the system said. -/
def reason : ServerError → String
  | unbound _ reason => reason
  | failed reason => reason

def report (e : ServerError) : Report := { cause := .other e.message [e.reason] }

end ServerError
end Telemetry
