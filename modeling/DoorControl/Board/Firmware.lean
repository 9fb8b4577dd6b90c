import DoorControl.Board.Driver
import DoorControl.Console.Command
import DoorControl.Console.Line

/-!
The whole program of the board: its start, and one round of each of its two tasks. The device's
task ticks the device, hands it its events and serves the console; the transport's task carries out
the requests.
-/

namespace DoorControl

/-- What the device's task keeps between its rounds. -/
structure DeviceTask where
  device : Device
  console : Console.Pending := {}
  /-- Rounds that began later than a whole period after their time. -/
  overruns : UInt32 := 0

/-- What the program keeps besides the queues. -/
structure Firmware where
  deviceTask : DeviceTask := { device := .new {} }
  transport : Transport := {}
  storageOpen : Bool := false
  /-- The device was started, so that the tasks have something to run. -/
  attached : Bool := false
  /-- Both tasks were created. -/
  started : Bool := false

namespace Firmware

open Bytes Board

/-- The pace of both tasks, in ticks. -/
def period : UInt32 := 10

/-- The most events that one round hands to the device. -/
def eventBurst : Nat := 16

/-- Sets up what has to be there before the program starts. -/
def construct : Program Board Unit := do
  Driver.newLight Pin.light
  Transport.new

/-! ### Console -/

/-- The counters that go with the status of the device. -/
structure Stats where
  eventDrops : UInt32
  requestDrops : UInt32
  overruns : UInt32
  eventDepth : Nat

def stats (overruns : UInt32) : Program Board Stats := do
  let eventDrops ← ask .eventDrops
  let requestDrops ← ask .requestDrops
  let depth ← eventDepth
  pure ⟨eventDrops, requestDrops, overruns, depth⟩

def Stats.describe (s : Stats) : Bytes :=
  ascii "[CMD] drops ev=" ++ decimal s.eventDrops.toNat ++
    ascii " req=" ++ decimal s.requestDrops.toNat ++
    ascii " overruns=" ++ decimal s.overruns.toNat ++
    ascii " depth=" ++ decimal s.eventDepth ++ [10]

/-- The room for a reply, its closing zero included. -/
def replyRoom : Nat := 160

/-- Carries a console line out and prints the reply; a line that asks for the status alone gets the
counters too. -/
def runLine (opened : Bool) (t : DeviceTask) (line : Bytes) (now : Clock) :
    Program Board Unit := do
  let reply ← (t.device.command line now).lower (Driver.lower opened)
  ask (.print (if reply.accepted then ascii "[CMD] " else ascii "[CMD] ERR "))
  printLine (clip replyRoom reply.text)
  if reply.accepted && matchesWord line (ascii "status") then
    ask (.print (← stats t.overruns).describe)

def runLines (opened : Bool) (t : DeviceTask) (now : Clock) :
    List Console.Ended → Program Board Unit
  | [] => pure ()
  | .tooLong :: rest => do
    printLine (ascii "[CMD] ERR line too long")
    runLines opened t now rest
  | .line s :: rest => do
    runLine opened t (untilNul s) now
    runLines opened t now rest

/-- Reads what has come in and carries out the lines that ended. -/
def pollConsole (opened : Bool) (t : DeviceTask) (now : Clock) : Program Board DeviceTask := do
  let (lines, console) := t.console.takeAll (← ask .serialInput)
  runLines opened t now lines
  pure { t with console := console }

/-! ### Rounds -/

/-- Hands up to `n` events that wait to the device, until it takes no more. -/
def drainEvents (opened : Bool) : Nat → Device → Program Board Device
  | 0, d => pure d
  | n + 1, d => do
    match ← receiveEvent with
    | none => pure d
    | some e =>
      let (more, d) ← (d.handle e).lower (Driver.lower opened)
      if more then drainEvents opened n d else pure d

/-- One round of the device's task, whose time came at `due`. Once a restart is pending the console
is no longer served. -/
def deviceRound (opened : Bool) (due : Clock) (t : DeviceTask) : Program Board DeviceTask := do
  let now ← millis
  let d ← (t.device.tick now).lower (Driver.lower opened)
  let d ← drainEvents opened eventBurst d
  let t := { t with device := d }
  if d.rebootPending then pure t
  else
    let t ← pollConsole opened t now
    let late := period < (← millis) - due
    pure { t with overruns := if late then t.overruns + 1 else t.overruns }

/-- One round of the transport's task. -/
def transportRound (t : Transport) : Program Board Transport := t.serve postEvent

/-! ### Start -/

/-- Creates the two tasks once the device was started; the transport's comes first. -/
def startTasks (f : Firmware) : Program Board (Bool × Firmware) := do
  if f.started then pure (true, f)
  else if !f.attached then pure (false, f)
  else if ← ensureQueues then
    if ← ask (.createTask .transport) then
      if ← ask (.createTask .device) then pure (true, { f with started := true })
      else
        error (ascii "RTOS") (ascii "app task not created")
        pure (false, f)
    else
      error (ascii "RTOS") (ascii "mqtt task not created")
      pure (false, f)
  else pure (false, f)

/-- Starts the device and then the tasks. -/
def start (f : Firmware) : Program Board (Bool × Firmware) := do
  Driver.startLight
  let opened ← Driver.openStorage (ascii "doorctl") f.storageOpen
  let f := { f with storageOpen := opened }
  unless opened do error (ascii "CFG") (ascii "nvs namespace unavailable")
  if ← ensureQueues then
    let d ← (f.deviceTask.device.start (← millis)).lower (Driver.lower opened)
    let f := { f with deviceTask := { f.deviceTask with device := d }, attached := true }
    let (ok, f) ← f.startTasks
    if ok then
      ask (.print (ascii "READY "))
      printLine d.deviceId
    pure (ok, f)
  else
    error (ascii "RTOS") (ascii "queue allocation failed")
    pure (false, f)

/-- What runs first after power-on. When the start fails, the board restarts. -/
def setup (f : Firmware) : Program Board Firmware := do
  ask (.serialStart 115200)
  ask (.pause 200)
  ask .logToSerial
  let (ok, f) ← f.start
  unless ok do
    error (ascii "APP") (ascii "startup failed, restarting")
    ask (.pause 1000)
    ask .restart
  pure f

/-- What runs beside the tasks: nothing. -/
def idle : Program Board Unit := sleep 1000

end Firmware

end DoorControl
