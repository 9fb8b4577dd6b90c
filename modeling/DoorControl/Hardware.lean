import DoorControl.Config.Submission
import DoorControl.Event
import DoorControl.Log
import DoorControl.Program
import DoorControl.Session.Request
import DoorControl.State

/-!
What the device asks of its hardware and of the queues around it. The device is a program over
these calls; whatever they answer, it has to go on.
-/

namespace DoorControl

namespace Hardware

inductive Call
  | pinOutput (pin : UInt8)
  /-- Makes a pin an input that is pulled high. -/
  | pinInput (pin : UInt8)
  | pinWrite (pin : UInt8) (high : Bool)
  | pinRead (pin : UInt8)
  | startAccessPoint (ssid pass : Bytes)
  /-- Starts to join a network; how it goes is asked for with `radioStatus`. -/
  | startStation (ssid pass : Bytes)
  | stopRadio
  | radioStatus
  /-- Hands a request to the transport, which may refuse it. -/
  | request (r : Request)
  /-- Waits until every request is done, or for the time given. -/
  | flush (timeout : UInt32)
  | light (r g b : UInt8)
  /-- The size of a stored value, 0 when there is none. -/
  | storedLength (key : Bytes)
  /-- Reads a stored value into `room` bytes and gives the bytes copied. -/
  | storedRead (key : Bytes) (room : Nat)
  /-- Stores a value and gives the number of bytes written. -/
  | storedWrite (key value : Bytes)
  /-- Removing what is not there succeeds. -/
  | storedRemove (key : Bytes)
  | restart
  /-- The identity of the hardware, as far as it fits `room` bytes with a closing zero. -/
  | deviceId (room : Nat)
  /-- Puts an event into the queue, which may be full. -/
  | post (e : Event)
  /-- Puts a submission into the mailbox, in the place of one not yet taken. -/
  | offer (s : Submission)
  | take
  | log (line : Bytes)

abbrev Answer : Call → Type
  | .pinRead _ => Bool
  | .startAccessPoint _ _ => Bool
  | .startStation _ _ => Bool
  | .radioStatus => RadioStatus
  | .request _ => Bool
  | .flush _ => Bool
  | .storedLength _ => Nat
  | .storedRead _ _ => Bytes
  | .storedWrite _ _ => Nat
  | .storedRemove _ => Bool
  | .deviceId _ => Bytes
  | .post _ => Bool
  | .offer _ => Bool
  | .take => Option Submission
  | _ => Unit

end Hardware

/-- The calls of the device. -/
abbrev Hardware : Interface := ⟨Hardware.Call, Hardware.Answer⟩

namespace Hardware

/-! ### The calls as programs -/

def ask (c : Call) : Program Hardware (Answer c) := Program.ask (I := Hardware) c

def pinOutput (pin : UInt8) : Program Hardware Unit := ask (.pinOutput pin)
def pinInput (pin : UInt8) : Program Hardware Unit := ask (.pinInput pin)
def pinWrite (pin : UInt8) (high : Bool) : Program Hardware Unit := ask (.pinWrite pin high)
def pinRead (pin : UInt8) : Program Hardware Bool := ask (.pinRead pin)
def startAccessPoint (ssid pass : Bytes) : Program Hardware Bool :=
  ask (.startAccessPoint ssid pass)
def startStation (ssid pass : Bytes) : Program Hardware Bool := ask (.startStation ssid pass)
def stopRadio : Program Hardware Unit := ask .stopRadio
def radioStatus : Program Hardware RadioStatus := ask .radioStatus
def request (r : Request) : Program Hardware Bool := ask (.request r)
def flush (timeout : UInt32) : Program Hardware Bool := ask (.flush timeout)
def light (r g b : UInt8) : Program Hardware Unit := ask (.light r g b)
def storedLength (key : Bytes) : Program Hardware Nat := ask (.storedLength key)
def storedRead (key : Bytes) (room : Nat) : Program Hardware Bytes := ask (.storedRead key room)
def storedWrite (key value : Bytes) : Program Hardware Nat := ask (.storedWrite key value)
def storedRemove (key : Bytes) : Program Hardware Bool := ask (.storedRemove key)
def restart : Program Hardware Unit := ask .restart
def deviceId (room : Nat) : Program Hardware Bytes := ask (.deviceId room)
def post (e : Event) : Program Hardware Bool := ask (.post e)
def offer (s : Submission) : Program Hardware Bool := ask (.offer s)
def take : Program Hardware (Option Submission) := ask .take

/-- Logs a message under a tag. -/
def log (level : Log.Level) (tag message : Bytes) : Program Hardware Unit :=
  ask (.log (Log.Entry.line ⟨level, some tag, message⟩))

def info (tag message : Bytes) : Program Hardware Unit := log .info tag message
def warn (tag message : Bytes) : Program Hardware Unit := log .warning tag message
def error (tag message : Bytes) : Program Hardware Unit := log .error tag message

/-- Posts an event and says so on the log when the queue is full. -/
def postOrWarn (tag : Bytes) (e : Event) : Program Hardware Unit := do
  unless ← post e do warn tag (ascii "event queue full")

end Hardware

end DoorControl
