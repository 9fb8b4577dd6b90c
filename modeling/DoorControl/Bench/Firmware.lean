import DoorControl.Bench.Board
import DoorControl.Board.Firmware
import DoorControl.Board.Task

/-!
The whole program on the bench: it is set up, and its two tasks are given their turns by hand.
-/

namespace DoorControl

structure FirmwareRig where
  firmware : Firmware := {}
  deviceTask : Option (Task DeviceTask) := none
  transportTask : Option (Task Transport) := none
  board : BoardBench.Traced

namespace FirmwareRig

def now (r : FirmwareRig) : Clock := r.board.1.now

/-- Lets time pass. -/
def wait (r : FirmwareRig) (ms : UInt32) : FirmwareRig :=
  { r with board.1.now := r.now + ms }

/-- Takes up a task that was created; one of the same name is replaced. -/
def takeUp (r : FirmwareRig) : TaskName × Clock → FirmwareRig
  | (.device, t) => { r with deviceTask := some (.new t) }
  | (.transport, t) => { r with transportTask := some (.new t) }

/-- Takes up the tasks that were created, the oldest first. -/
def takeUpAll (r : FirmwareRig) : FirmwareRig :=
  let r' := r.board.1.tasks.reverse.foldl takeUp r
  { r' with board.1.tasks := [] }

/-- Runs a part of the program outside the tasks. -/
def perform {α : Type} (r : FirmwareRig) (p : Program Board (α × Firmware)) : α × FirmwareRig :=
  let ((a, f), board) := BoardBench.perform r.board p
  (a, { r with firmware := f, board := board }.takeUpAll)

def setup (r : FirmwareRig) : FirmwareRig :=
  (r.perform (do pure ((), ← r.firmware.setup))).2

def startTasks (r : FirmwareRig) : Bool × FirmwareRig := r.perform r.firmware.startTasks

def idle (r : FirmwareRig) : FirmwareRig :=
  (r.perform (do Firmware.idle; pure ((), r.firmware))).2

def deviceRounds (r : FirmwareRig) : Rounds DeviceTask where
  period := Firmware.period
  round := Firmware.deviceRound r.firmware.storageOpen
  parked := fun t => t.device.rebootPending

def transportRounds : Rounds Transport where
  period := Firmware.period
  round := fun _ => Firmware.transportRound

def clock (w : BoardBench.Traced) : Clock := w.1.now

/-- Gives the device's task its turn. -/
def deviceTurn (r : FirmwareRig) : Task.Turn × FirmwareRig :=
  match r.deviceTask with
  | none => (.absent, r)
  | some t =>
    let (turn, t, s, board) :=
      t.turn r.deviceRounds BoardBench.environment.recorded clock r.firmware.deviceTask r.board
    (turn, { r with firmware.deviceTask := s, deviceTask := some t, board := board })

/-- Gives the transport's task its turn. -/
def transportTurn (r : FirmwareRig) : Task.Turn × FirmwareRig :=
  match r.transportTask with
  | none => (.absent, r)
  | some t =>
    let (turn, t, s, board) :=
      t.turn transportRounds BoardBench.environment.recorded clock r.firmware.transport r.board
    (turn, { r with firmware.transport := s, transportTask := some t, board := board })

/-- `n` times, after the same time, a turn of the device's task and one of the transport's. Gives
what came of the last two. -/
def rounds (every : UInt32) : Nat → Task.Turn × Task.Turn → FirmwareRig →
    (Task.Turn × Task.Turn) × FirmwareRig
  | 0, last, r => (last, r)
  | n + 1, _, r =>
    let (d, r) := (r.wait every).deviceTurn
    let (t, r) := r.transportTurn
    rounds every n (d, t) r

/-- The counters of the program as they stand. -/
def stats (r : FirmwareRig) : Firmware.Stats :=
  ((Firmware.stats r.firmware.deviceTask.overruns).run BoardBench.environment r.board.1).1

end FirmwareRig

end DoorControl
