import Telemetry.Pipeline.Delivery
import Telemetry.Signal

/-! Lifetimes of the exporter. Two tasks run side by side, the pipeline and the server, and share one
    cancellation: it is asked for by the end of either of them, and by a signal. A lifetime is over
    when its waiting has ended and both tasks have. -/

namespace Telemetry

/-- A lifetime whose start succeeded. -/
structure Lifetime where
  /-- The signals that were not taken yet, the earliest first. -/
  queue : List Signal
  cancelled : Bool := false
  /-- What ended the waiting, once it has ended: a signal, or nothing but the end of a task. -/
  awaited : Option (Option Signal) := none
  /-- How the pipeline ended, once it has. -/
  pipeline : Option Delivery.Ending := none
  /-- How the server ended, once it has. -/
  server : Option Delivery.Ending := none
  deriving Repr

namespace Lifetime

/-- What can happen in a lifetime. -/
inductive Event where
  /-- The next signal is taken. -/
  | signal
  /-- The cancellation is noticed. -/
  | notice
  | pipelineEnds (e : Delivery.Ending)
  | serverEnds (e : Delivery.Ending)
  deriving Repr

/-- The signal to take next; a queue without signals asks to terminate. -/
def next (x : Lifetime) : Signal := x.queue.head?.getD .terminate

/-- What an event does. After the waiting has ended no signal is taken, and a task ends once. -/
def step (x : Lifetime) : Event → Lifetime
  | .signal =>
    if x.awaited.isSome then x
    else { x with queue := x.queue.tail, awaited := some (some x.next), cancelled := true }
  | .notice => if x.awaited.isSome || !x.cancelled then x else { x with awaited := some none }
  | .pipelineEnds e => if x.pipeline.isSome then x else { x with pipeline := some e, cancelled := true }
  | .serverEnds e => if x.server.isSome then x else { x with server := some e, cancelled := true }

/-- What events do, one after the other. -/
def steps (x : Lifetime) (es : List Event) : Lifetime := es.foldl step x

/-- The result of a lifetime that is over: the failure of the pipeline, else that of the server, else what
    ended the waiting. -/
def result? (x : Lifetime) : Option (Except Report (Option Signal)) :=
  match x.awaited, x.pipeline, x.server with
  | some _, some (.error r), some _ => some (.error r)
  | some _, some (.ok ()), some (.error r) => some (.error r)
  | some a, some (.ok ()), some (.ok ()) => some (.ok a)
  | _, _, _ => none

end Lifetime
end Telemetry
