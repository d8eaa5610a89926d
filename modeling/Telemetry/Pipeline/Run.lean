import Telemetry.Pipeline.Basic
import Telemetry.Pipeline.Delivery
import Telemetry.Pipeline.State

/-! Runs of a pipeline. In every turn a run first looks whether it was cancelled and else does one tick.
    However it ends, it publishes that it is stopping, releases the collector, and publishes that it has
    stopped. Every publication is kept with the state of the world at that moment. -/

namespace Telemetry

/-- A run of a pipeline in a world with states in `σ`. -/
structure Run (σ : Type) where
  world : σ
  delivery : Delivery
  cancelled : Bool := false
  /-- The states that were published, each with the world as it was then; the earliest first. -/
  published : List (PipelineState × σ)
  /-- How the run ended, once it has. -/
  ending : Option Delivery.Ending := none

namespace Run

variable {σ : Type}

/-- What can happen to a run from outside, and the turns that it takes itself. -/
inductive Event where
  | turn
  | receive
  | close
  | cancel
  deriving DecidableEq, Repr

/-- The state that was published last. -/
def state (r : Run σ) : PipelineState := ((r.published.getLast?).map Prod.fst).getD .idle

def publish (s : PipelineState) (r : Run σ) : Run σ := { r with published := r.published ++ [(s, r.world)] }

/-- A run that has just begun. -/
def start (channel : Channel) (world : σ) : Run σ :=
  publish .running { world, delivery := { channel }, published := [(.idle, world)] }

/-- Ends the run: the collector is released between two publications. -/
def stop (p : Pipeline σ) (ending : Delivery.Ending) (r : Run σ) : Run σ :=
  let r := r.publish .stopping
  { r with world := p.collector.release p.manager r.world, ending := some ending }.publish .stopped

/-- One turn of a run that has not ended. -/
def turn (p : Pipeline σ) (r : Run σ) : Run σ :=
  if r.cancelled then r.stop p (.ok ())
  else
    let (outcome, world) := p.renderOnce r.world
    let (delivery, ending) := r.delivery.tick outcome
    let r := { r with world, delivery }
    match ending with
    | none => r
    | some e => r.stop p e

/-- What an event does to a run; a run that has ended takes no turns. -/
def step (p : Pipeline σ) (r : Run σ) : Event → Run σ
  | .turn => if r.ending.isSome then r else r.turn p
  | .receive => { r with delivery := r.delivery.receive }
  | .close => { r with delivery := r.delivery.close }
  | .cancel => { r with cancelled := true }

/-- What events do to a run, one after the other. -/
def steps (p : Pipeline σ) (r : Run σ) (es : List Event) : Run σ := es.foldl (step p) r

/-- Takes turns until the run has ended, or at most `fuel` of them; it is cancelled as soon as `enough`
    holds of it. -/
def advance (p : Pipeline σ) (enough : Run σ → Bool) : Nat → Run σ → Run σ
  | 0, r => r
  | fuel + 1, r =>
    if r.ending.isSome then r
    else advance p enough fuel ((if enough r then { r with cancelled := true } else r).turn p)

end Run
end Telemetry
