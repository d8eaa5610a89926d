import Telemetry.Pipeline.Channel
import Telemetry.Report

/-! What becomes of the results of ticks. A text goes into the channel, or is dropped and counted if the
    channel is full; a failure delivers nothing. A channel without a receiver and a lost device
    manager end the run. -/

namespace Telemetry

/-- The channel of a run, what was taken from it, and the number of texts that were dropped. -/
structure Delivery where
  channel : Channel
  received : List String := []
  overflows : Nat := 0
  deriving DecidableEq, Repr

namespace Delivery

/-- The result of a tick: a text, or the report of a failure. -/
abbrev Outcome := Except Report String

/-- How a run ends: at someone's wish, or with a report. -/
abbrev Ending := Except Report Unit

/-- The report of a run that lost the device manager. -/
def lost (r : Report) : Report := r.wrap "Lost the device manager"

/-- Delivers the result of a tick, and says how the run ends if it does. -/
def tick (outcome : Outcome) (d : Delivery) : Delivery × Option Ending :=
  match outcome with
  | .error r => (d, if r.isFatal then some (.error (lost r)) else none)
  | .ok text =>
    match d.channel.offer text with
    | (.sent, channel) => ({ d with channel }, none)
    | (.full, channel) => ({ d with channel, overflows := d.overflows + 1 }, none)
    | (.closed, channel) => ({ d with channel }, some (.ok ()))

/-- Takes the oldest text from the channel, if there is one. -/
def receive (d : Delivery) : Delivery :=
  match d.channel.receive with
  | none => d
  | some (text, channel) => { d with channel, received := d.received ++ [text] }

/-- Takes the receiver away. -/
def close (d : Delivery) : Delivery := { d with channel := d.channel.close }

end Delivery
end Telemetry
