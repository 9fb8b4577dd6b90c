import DoorControl.Bench.Board

/-!
A transport on the bench, without the device: requests are handed to it directly, its task is run by
hand, and its reports are kept.
-/

namespace DoorControl

/-- A transport and the board it runs on. -/
structure TransportRig where
  transport : Transport := {}
  board : BoardBench.Traced

namespace TransportRig

def report (e : Event) : Program Board Bool := Board.ask (.report e)

def perform {α : Type} (r : TransportRig) (p : Program Board α) : α × TransportRig :=
  ((BoardBench.perform r.board p).1, { r with board := (BoardBench.perform r.board p).2 })

/-- Runs one round of the transport's task. -/
def serve (r : TransportRig) : TransportRig where
  transport := (BoardBench.perform r.board (r.transport.serve report)).1
  board := (BoardBench.perform r.board (r.transport.serve report)).2

/-- Runs a program in whose `k`-th sleep the transport's task has a round; with `k = 0` it has
none. -/
def interleave {α : Type} (k : Nat) : Program Board α → TransportRig → α × TransportRig
  | .done a, r => (a, r)
  | .call (.sleep ticks) next, r =>
    let a := BoardBench.environment.recorded.respond (.sleep ticks) r.board
    let r := { r with board := a.2 }
    interleave (k - 1) (next a.1) (if k = 1 then r.serve else r)
  | .call c next, r =>
    let a := BoardBench.environment.recorded.respond c r.board
    interleave k (next a.1) { r with board := a.2 }

/-- Waits for the requests to be done, while the task has a round in the `k`-th sleep. -/
def flush (r : TransportRig) (timeout : UInt32) (k : Nat) : Bool × TransportRig :=
  interleave k (Transport.flush timeout) r

end TransportRig

end DoorControl
