/-! The states that a running pipeline goes through. -/

namespace Telemetry

/-- A state of a pipeline. -/
inductive PipelineState where
  | idle
  | running
  | stopping
  | stopped
  deriving DecidableEq, Repr, Inhabited

namespace PipelineState

def all : List PipelineState := [idle, running, stopping, stopped]

def name : PipelineState → String
  | idle => "idle"
  | running => "running"
  | stopping => "stopping"
  | stopped => "stopped"

end PipelineState
end Telemetry
