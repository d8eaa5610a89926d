import Telemetry.Pipeline.Run
import Telemetry.Server.Router

/-! What is seen of a lifetime from outside: the pipeline runs, the server takes the texts out of the
    channel and publishes them one by one, and requests are answered from what is published. -/

namespace Telemetry

/-- A lifetime that serves, in a world with states in `σ`. -/
structure Serving (σ : Type) where
  run : Run σ
  store : Store := {}
  /-- The answers that were given, the earliest first. -/
  answers : List Response := []

namespace Serving

variable {σ : Type}

/-- What happens in a lifetime that serves. -/
inductive Event where
  /-- The pipeline takes a turn. -/
  | turn
  /-- The server takes the oldest text that waits, and publishes it. -/
  | publish
  | request (method target : String)
  | cancel
  deriving DecidableEq, Repr

/-- A lifetime that has just begun. -/
def start (capacity : Nat) (world : σ) : Serving σ := { run := Run.start { capacity } world }

/-- Takes the oldest text that waits, if there is one, and publishes it. -/
def publishNext (p : Pipeline σ) (x : Serving σ) : Serving σ :=
  match x.run.delivery.channel.receive with
  | none => x
  | some (text, _) => { x with run := x.run.step p .receive, store := x.store.publish text }

/-- What an event does; once it is cancelled, nothing more is published. -/
def step (p : Pipeline σ) (x : Serving σ) : Event → Serving σ
  | .turn => { x with run := x.run.step p .turn }
  | .publish => if x.run.cancelled then x else x.publishNext p
  | .request method target => { x with answers := x.answers ++ [Router.respond x.store method target] }
  | .cancel => { x with run := x.run.step p .cancel }

/-- What events do, one after the other. -/
def steps (p : Pipeline σ) (x : Serving σ) (es : List Event) : Serving σ := es.foldl (step p) x

end Serving
end Telemetry
