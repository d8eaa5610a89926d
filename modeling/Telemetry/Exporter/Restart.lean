import Telemetry.Exporter.Lifetime

/-! The lifetimes of the exporter, one after the other. Another one begins only if the one before was
    ended by a signal that asks for it, and both its tasks ended well. -/

namespace Telemetry

/-- The course of a lifetime: how its start ended, and what happens in it after that. -/
structure Course where
  start : Except Report Unit
  events : List Lifetime.Event
  deriving Repr

/-- What has become of the exporter. -/
structure Service where
  /-- The number of lifetimes that were begun. -/
  lifetimes : Nat
  /-- The signals that were not taken. -/
  queue : List Signal
  /-- How the exporter ended, unless it is still running. -/
  ending : Option (Except Report Unit)
  deriving Repr

namespace Service

/-- The report of a lifetime in which a task ended by itself, if well. -/
def unasked : Report := Report.ofText "The exporter stopped without being asked to"

/-- What the result of a lifetime asks for: another lifetime, or an end. -/
def verdict : Except Report (Option Signal) → Option (Except Report Unit)
  | .error r => some (.error r)
  | .ok none => some (.error unasked)
  | .ok (some s) => if s.restarts then none else some (.ok ())

/-- What becomes of the exporter in lifetimes of the given courses, with some signals to come. -/
def run : List Course → List Signal → Service
  | [], queue => { lifetimes := 0, queue, ending := none }
  | c :: cs, queue =>
    match c.start with
    | .error r => { lifetimes := 1, queue, ending := some (.error r) }
    | .ok () =>
      let x := Lifetime.steps { queue } c.events
      match x.result?.map verdict with
      | none => { lifetimes := 1, queue := x.queue, ending := none }
      | some (some e) => { lifetimes := 1, queue := x.queue, ending := some e }
      | some none =>
        let rest := run cs x.queue
        { rest with lifetimes := rest.lifetimes + 1 }

end Service
end Telemetry
