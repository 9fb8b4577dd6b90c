import DoorControl.Config.Submission
import DoorControl.Event
import DoorControl.Log
import DoorControl.Program
import DoorControl.Session.Request

/-!
The calls of the board: its pins, radio, broker client, storage, light and serial port, and the
queues and tasks of its operating system. Each call is one step that no other task can divide. A
task that sleeps lets the other tasks run.
-/

namespace DoorControl

/-- The queues between the tasks. -/
inductive QueueName
  | events
  | submissions
  | requests
deriving DecidableEq

/-- How many entries a queue holds. -/
def QueueName.capacity : QueueName → Nat
  | events => 16
  | submissions => 1
  | requests => 4

/-- The two tasks: one serves the broker client, the other runs the device. -/
inductive TaskName
  | transport
  | device
deriving DecidableEq

namespace TaskName

def label : TaskName → Bytes
  | transport => ascii "Mqtt"
  | device => ascii "App"

/-- The bytes of stack that a task gets. -/
def stack : TaskName → Nat
  | _ => 8192

def priority : TaskName → Nat
  | transport => 1
  | device => 2

/-- The core that a task runs on. -/
def core : TaskName → Nat
  | transport => 0
  | device => 1

end TaskName

inductive RadioMode
  | off
  | station
  | accessPoint
deriving DecidableEq

def RadioMode.code : RadioMode → UInt8
  | off => 0
  | station => 1
  | accessPoint => 2

/-- A network address, its first byte first. -/
structure Address where
  a : UInt8
  b : UInt8
  c : UInt8
  d : UInt8
deriving DecidableEq

/-- The address as four numbers with dots between. -/
def Address.dotted (x : Address) : Bytes :=
  Bytes.decimal x.a.toNat ++ ascii "." ++ Bytes.decimal x.b.toNat ++ ascii "." ++
    Bytes.decimal x.c.toNat ++ ascii "." ++ Bytes.decimal x.d.toNat

/-- Whom the broker client connects as, and what the broker says when the connection dies. -/
structure Login where
  clientId : Bytes
  /-- User and password, if there is a user. -/
  user : Option (Bytes × Bytes)
  willTopic : Bytes
  willQos : UInt8
  willRetained : Bool
  will : Bytes

namespace Board

inductive Call
  | pinMode (pin : UInt8) (output : Bool)
  | digitalWrite (pin : UInt8) (high : Bool)
  | digitalRead (pin : UInt8)
  /-- The clock, in milliseconds. -/
  | millis
  /-- Waits without letting other tasks run. -/
  | pause (ms : UInt32)
  /-- Lets other tasks run for a number of ticks, which are milliseconds. -/
  | sleep (ticks : UInt32)
  | restart
  | hardwareId
  | log (line : Bytes)
  | logToSerial
  | serialStart (baud : Nat)
  | serialFlush
  | print (s : Bytes)
  /-- Takes what has come in on the serial port. -/
  | serialInput
  | radioMode (m : RadioMode)
  | configureAccessPoint (ip gateway mask : Address)
  | openAccessPoint (ssid pass : Bytes)
  | accessPointAddress
  | autoReconnect (on : Bool)
  | joinNetwork (ssid pass : Bytes)
  | leaveNetwork (off erase : Bool)
  | stationStatus
  | useSocket (secure : Bool)
  | skipCertificate
  | keepAlive (seconds : Nat)
  | socketTimeout (seconds : Nat)
  | setServer (host : Bytes) (port : UInt16)
  | setBuffer (size : Nat)
  /-- How long the socket holds the caller up before it connects. -/
  | connectStall
  | connect (l : Login)
  | publish (topic payload : Bytes) (retained : Bool)
  | subscribe (topic : Bytes) (qos : UInt8)
  /-- How long the socket holds the caller up before it disconnects. -/
  | disconnectStall
  | disconnect
  | isConnected
  /-- The client's code for how the connection stands. -/
  | clientStatus
  /-- Serves the client and gives the messages that came in, with their topics. -/
  | pollClient
  | openStorage (ns : Bytes) (readOnly : Bool)
  | hasKey (key : Bytes)
  | valueLength (key : Bytes)
  | readValue (key : Bytes) (room : Nat)
  | writeValue (key value : Bytes)
  | removeKey (key : Bytes)
  | newPixels (count : Nat) (pin : UInt8) (kind : Nat)
  | startPixels
  | clearPixels
  | showPixels
  | setPixel (index : Nat) (color : UInt32)
  | createQueue (q : QueueName)
  | queueExists (q : QueueName)
  | sendEvent (e : Event)
  /-- Sends from an interrupt; the second answer is whether a task was woken. -/
  | sendEventFromInterrupt (e : Event)
  | inInterrupt
  | yieldFromInterrupt
  | receiveEvent
  | eventsWaiting
  | countEventDrop
  | eventDrops
  /-- Puts a submission in the place of one that waits. -/
  | overwriteSubmission (s : Submission)
  | receiveSubmission
  | sendRequest (r : Request)
  | receiveRequest
  | requestsWaiting
  | countRequestDrop
  | requestDrops
  /-- Marks that requests are being carried out. -/
  | setDraining (on : Bool)
  | draining
  | createTask (t : TaskName)
  /-- Hands an event to whoever listens to the transport when there is no event queue. -/
  | report (e : Event)

abbrev Answer : Call → Type
  | .digitalRead _ => Bool
  | .millis => Clock
  | .hardwareId => UInt64
  | .serialInput => Bytes
  | .radioMode _ => Bool
  | .configureAccessPoint _ _ _ => Bool
  | .openAccessPoint _ _ => Bool
  | .accessPointAddress => Address
  | .stationStatus => UInt8
  | .setBuffer _ => Bool
  | .connectStall => UInt32
  | .connect _ => Bool
  | .publish _ _ _ => Bool
  | .subscribe _ _ => Bool
  | .disconnectStall => UInt32
  | .isConnected => Bool
  | .clientStatus => Int
  | .pollClient => List (Option Bytes × Bytes)
  | .openStorage _ _ => Bool
  | .hasKey _ => Bool
  | .valueLength _ => Nat
  | .readValue _ _ => Bytes
  | .writeValue _ _ => Nat
  | .removeKey _ => Bool
  | .createQueue _ => Bool
  | .queueExists _ => Bool
  | .sendEvent _ => Bool
  | .sendEventFromInterrupt _ => Bool × Bool
  | .inInterrupt => Bool
  | .receiveEvent => Option Event
  | .eventsWaiting => Nat
  | .eventDrops => UInt32
  | .overwriteSubmission _ => Bool
  | .receiveSubmission => Option Submission
  | .sendRequest _ => Bool
  | .receiveRequest => Option Request
  | .requestsWaiting => Nat
  | .requestDrops => UInt32
  | .draining => Bool
  | .createTask _ => Bool
  | .report _ => Bool
  | _ => Unit

end Board

/-- The calls of the board. -/
abbrev Board : Interface := ⟨Board.Call, Board.Answer⟩

namespace Board

def ask (c : Call) : Program Board (Answer c) := Program.ask (I := Board) c

/-- Logs a message under a tag. -/
def log (level : Log.Level) (tag message : Bytes) : Program Board Unit :=
  ask (.log (Log.Entry.line ⟨level, some tag, message⟩))

def info (tag message : Bytes) : Program Board Unit := log .info tag message
def warn (tag message : Bytes) : Program Board Unit := log .warning tag message
def error (tag message : Bytes) : Program Board Unit := log .error tag message

/-- Prints a text and ends the line. -/
def printLine (s : Bytes) : Program Board Unit := ask (.print (s ++ [13, 10]))

def millis : Program Board Clock := ask .millis

def sleep (ticks : UInt32) : Program Board Unit := ask (.sleep ticks)

end Board

end DoorControl
