import Telemetry.Device.Watch
import Telemetry.SortedMap

/-! A client of a device manager. It holds sessions and watches under keys. Sessions share a
    connection with their clones and with the watches set up over them, and the connection is closed
    when the last of these is given up; a watch destroys its groups first. -/

namespace Telemetry

/-- The number of a connection; every successful connecting has a new one. -/
abbrev Connection := Nat

/-- A watch with the connection that it keeps open. -/
structure HeldWatch where
  watch : Watch
  connection : Connection
  deriving DecidableEq, Repr, Inhabited

/-- The manager's state, and what the client holds. -/
structure Client (σ : Type) where
  manager : σ
  sessions : SortedMap Connection := SortedMap.empty
  watches : SortedMap HeldWatch := SortedMap.empty
  /-- The number of the next connection. -/
  next : Connection := 0

namespace Client

variable {σ : Type}

/-- Whether a session or a watch keeps the connection open. -/
def holds (c : Client σ) (n : Connection) : Bool :=
  c.sessions.entries.any (fun e => e.2 == n) || c.watches.entries.any fun e => e.2.connection == n

/-- Closes a connection that nothing keeps open any more. -/
def settle (m : DeviceManager σ) (n : Connection) (c : Client σ) : Client σ :=
  if c.holds n then c else { c with manager := m.disconnect c.manager }

/-- Closes the connection of a session that was given up, if there was one. -/
def giveUpSession (m : DeviceManager σ) (former : Option Connection) (c : Client σ) : Client σ :=
  match former with
  | none => c
  | some n => c.settle m n

/-- Destroys the groups of a watch that was given up, if there was one, and then closes its connection. -/
def giveUpWatch (m : DeviceManager σ) (former : Option HeldWatch) (c : Client σ) : Client σ :=
  match former with
  | none => c
  | some w => { c with manager := m.stopWatch w.watch c.manager }.settle m w.connection

/-- Keeps a session under a key; the session that the key had is given up afterwards. -/
def keepSession (m : DeviceManager σ) (key : String) (n : Connection) (c : Client σ) : Client σ :=
  { c with sessions := c.sessions.insert key n }.giveUpSession m (c.sessions.get? key)

/-- Connects, and keeps the new session under a key. -/
def openSession (m : DeviceManager σ) (key : String) : Call (Client σ) Unit := fun c =>
  match m.connect c.manager with
  | (.error e, s) => (.error e, { c with manager := s })
  | (.ok (), s) => (.ok (), { c with manager := s, next := c.next + 1 }.keepSession m key c.next)

/-- Keeps a clone of the session under one key under another; none if there is no such session. -/
def cloneSession? (m : DeviceManager σ) (key newKey : String) (c : Client σ) : Option (Client σ) :=
  (c.sessions.get? key).map fun n => c.keepSession m newKey n

/-- Gives up the session under a key, and says whether there was one. -/
def dropSession (m : DeviceManager σ) (key : String) (c : Client σ) : Bool × Client σ :=
  let former := c.sessions.get? key
  (former.isSome, { c with sessions := c.sessions.erase key }.giveUpSession m former)

/-- Sets up a watch over a connection and keeps it under a key; the watch that the key had is given
    up afterwards. -/
def openWatch (m : DeviceManager σ) (n : Connection) (key : String) (entities : List Entity)
    (fields : List FieldId) (intervalMs : Nat) : Call (Client σ) Watch := fun c =>
  match m.startWatch "w" entities fields intervalMs c.manager with
  | (.error e, s) => (.error e, { c with manager := s })
  | (.ok w, s) =>
    let kept := { c with manager := s, watches := c.watches.insert key { watch := w, connection := n } }
    (.ok w, kept.giveUpWatch m (c.watches.get? key))

/-- Gives up the watch under a key, and says whether there was one. -/
def dropWatch (m : DeviceManager σ) (key : String) (c : Client σ) : Bool × Client σ :=
  let former := c.watches.get? key
  (former.isSome, { c with watches := c.watches.erase key }.giveUpWatch m former)

/-- Gives up all watches and then all sessions, each by ascending key. -/
def close (m : DeviceManager σ) (c : Client σ) : Client σ :=
  let c := (c.watches.entries.map Prod.fst).foldl (fun c key => (c.dropWatch m key).2) c
  (c.sessions.entries.map Prod.fst).foldl (fun c key => (c.dropSession m key).2) c

end Client
end Telemetry
