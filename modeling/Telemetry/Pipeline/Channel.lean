/-! Bounded queues of texts between a sender that never waits and a receiver. -/

namespace Telemetry

/-- A queue with what waits in it, the oldest first. -/
structure Channel where
  capacity : Nat
  waiting : List String := []
  /-- Whether the receiver still takes texts. -/
  isOpen : Bool := true
  deriving DecidableEq, Repr

/-- What becomes of a text that is offered to a queue. -/
inductive Offer where
  | sent
  | full
  | closed
  deriving DecidableEq, Repr

namespace Channel

/-- Offers a text, which is not taken once the receiver is gone or while the queue is full. -/
def offer (text : String) (c : Channel) : Offer × Channel :=
  if !c.isOpen then (.closed, c)
  else if c.capacity ≤ c.waiting.length then (.full, c)
  else (.sent, { c with waiting := c.waiting ++ [text] })

/-- Takes the oldest text. -/
def receive (c : Channel) : Option (String × Channel) :=
  match c.waiting with
  | [] => none
  | text :: rest => some (text, { c with waiting := rest })

/-- The queue once the receiver is gone, and with it what waited. -/
def close (c : Channel) : Channel := { c with isOpen := false }

end Channel
end Telemetry
