import DoorControl.Bench.Basic
import DoorControl.Console.Command

/-!
A device on the bench, with its event queue: the device is started, ticked and given its events, in
the ways a task would do it.
-/

namespace DoorControl

/-- A device, the bench it runs on, and the record of the present step, the newest exchange first. -/
structure Rig where
  device : Device
  bench : Bench
  trace : List (Exchange Hardware) := []

namespace Rig

open Hardware

/-- Runs a program of the device's. -/
def perform {α : Type} (r : Rig) (p : Program Hardware α) : α × Rig :=
  let (a, bench, trace) := p.run Bench.environment.recorded (r.bench, r.trace)
  (a, { r with bench := bench, trace := trace })

/-- Runs a program that changes the device. -/
def change (r : Rig) (p : Program Hardware Device) : Rig :=
  let (d, r) := r.perform p
  { r with device := d }

def start (r : Rig) : Rig := r.change (r.device.start r.bench.now)

def tick (r : Rig) : Rig := r.change (r.device.tick r.bench.now)

def handle (r : Rig) (e : Event) : Bool × Rig :=
  let ((more, d), r) := r.perform (r.device.handle e)
  (more, { r with device := d })

/-- Hands up to `n` queued events to the device, the oldest first, until it takes no more; `count`
were handled before. -/
def pumpUpTo (n : Nat) (r : Rig) (count : Nat) : Nat × Rig :=
  match n, r.bench.queue with
  | 0, _ => (count, r)
  | _, [] => (count, r)
  | n + 1, e :: rest =>
    let (more, r) := { r with bench.queue := rest }.handle e
    if more then pumpUpTo n r (count + 1) else (count, r)

/-- The most events that handling one can come to: itself and those posted on its way. -/
def eventsPerEvent : Nat := 4

/-- Hands the queued events to the device, with those that it posts meanwhile, or at most `limit`
of them. -/
def pump (r : Rig) (limit : Option Nat) : Nat × Rig :=
  r.pumpUpTo (limit.getD (eventsPerEvent * r.bench.queue.length)) 0

/-- Lets time pass. -/
def wait (r : Rig) (ms : UInt32) : Rig := { r with bench.now := r.bench.now + ms }

/-- Starts the device and hands it the events of the start. -/
def boot (r : Rig) : Nat × Rig := r.start.pump none

/-- One round: a tick, and the events. -/
def round (r : Rig) : Nat × Rig := r.tick.pump none

/-- `n` rounds, each after the same time; the events of all of them are counted. -/
def rounds (n : Nat) (every : UInt32) (r : Rig) (count : Nat) : Nat × Rig :=
  match n with
  | 0 => (count, r)
  | n + 1 =>
    let (k, r) := (r.wait every).round
    rounds n every r (count + k)

def post (r : Rig) (e : Event) : Bool × Rig := r.perform (Hardware.post e)

/-- Posts an event and hands the queue to the device. -/
def postAndPump (r : Rig) (e : Event) : Nat × Rig := (r.post e).2.pump none

/-- The device loses its power: the queues and the radio start anew, the rest of the bench stays as
it is. -/
def powerCycle (r : Rig) : Rig := { r with
  device := Device.new r.device.timing
  bench := { r.bench with queue := [], mailbox := none, mailboxOpen := true, radio := .down } }

end Rig

end DoorControl
