import DoorControl.Bench.Storage
import DoorControl.Board.Driver
import DoorControl.Config.Record

/-!
A board on the bench: its libraries answer as they are set to, its clock is moved by hand, and its
queues work as the operating system's do.
-/

namespace DoorControl

structure BoardBench where
  now : Clock := 0
  pins : List (UInt8 × Bool) := []
  modeOk : Bool := true
  addressOk : Bool := true
  accessPointOk : Bool := true
  accessPoint : Address := ⟨192, 168, 4, 1⟩
  stationStatus : UInt8 := 6
  bufferOk : Bool := true
  connectOk : Bool := true
  publishOk : Bool := true
  subscribeOk : Bool := true
  connected : Bool := false
  clientStatus : Int := -1
  connectStall : UInt32 := 0
  disconnectStall : UInt32 := 0
  storageOk : Bool := true
  storage : Storage := {}
  /-- Writes that will fail. -/
  failWrites : Nat := 0
  /-- Removals that will fail. -/
  failRemoves : Nat := 0
  /-- Which creation of a queue fails, counted from 0; none below zero. -/
  queueFailsAt : Int := -1
  queuesCreated : Nat := 0
  taskFailsAt : Int := -1
  tasksCreated : Nat := 0
  /-- The tasks created and when, the newest first. -/
  tasks : List (TaskName × Clock) := []
  inInterrupt : Bool := false
  interruptWakes : Bool := false
  hardwareId : UInt64 := 0xf6e5d4c3b2a1
  inbox : List (Option Bytes × Bytes) := []
  serialIn : Bytes := []
  /-- What was printed, the newest piece first. -/
  serialOut : List Bytes := []
  /-- Log lines go to the serial port. -/
  serialLog : Bool := false
  events : Option (List Event) := none
  submissions : Option (List Submission) := none
  requests : Option (List Request) := none
  eventDrops : UInt32 := 0
  requestDrops : UInt32 := 0
  draining : Bool := false
  /-- The events reported by a transport that stands alone, and how many of them are kept. -/
  reports : List Event := []
  reportCapacity : Nat := 64

namespace BoardBench

open Bytes

def pin (b : BoardBench) (p : UInt8) : Bool := (b.pins.lookup p).getD true

def setPin (b : BoardBench) (p : UInt8) (high : Bool) : BoardBench :=
  { b with pins := (p, high) :: b.pins.filter (·.1 != p) }

def printed (b : BoardBench) (s : Bytes) : BoardBench := { b with serialOut := s :: b.serialOut }

/-- What was printed. -/
def serial (b : BoardBench) : Bytes := b.serialOut.reverse.flatten

/-- A read that copies all of a value or, when the room is too small, nothing. -/
def readValue (b : BoardBench) (key : Bytes) (room : Nat) : Bytes :=
  if room < (b.storage.get key).length then [] else b.storage.get key

def writeValue (b : BoardBench) (key value : Bytes) : Nat × BoardBench :=
  if b.failWrites ≠ 0 then (0, { b with failWrites := b.failWrites - 1 })
  else (value.length, { b with storage := b.storage.set key value })

def removeKey (b : BoardBench) (key : Bytes) : Bool × BoardBench :=
  if b.failRemoves ≠ 0 then (false, { b with failRemoves := b.failRemoves - 1 })
  else ((b.storage.find? key).isSome, { b with storage := b.storage.erase key })

/-! ### Queues and tasks -/

def queueExists (b : BoardBench) : QueueName → Bool
  | .events => b.events.isSome
  | .submissions => b.submissions.isSome
  | .requests => b.requests.isSome

def withQueue (b : BoardBench) : QueueName → BoardBench
  | .events => { b with events := some [] }
  | .submissions => { b with submissions := some [] }
  | .requests => { b with requests := some [] }

def createQueue (b : BoardBench) (q : QueueName) : Bool × BoardBench :=
  let ok := b.queueFailsAt ≠ b.queuesCreated
  let b := { b with queuesCreated := b.queuesCreated + 1 }
  (ok, if ok then b.withQueue q else b)

def createTask (b : BoardBench) (t : TaskName) : Bool × BoardBench :=
  let ok := b.taskFailsAt ≠ b.tasksCreated
  let b := { b with tasksCreated := b.tasksCreated + 1 }
  (ok, if ok then { b with tasks := (t, b.now) :: b.tasks } else b)

/-- Sends to a queue unless it is missing or full. -/
def sent {α : Type} (capacity : Nat) (q : Option (List α)) (x : α) : Option (List α) :=
  q.bind fun xs => if xs.length < capacity then some (xs ++ [x]) else none

def sendEvent (b : BoardBench) (e : Event) : Bool × BoardBench :=
  match sent (QueueName.events).capacity b.events e with
  | some q => (true, { b with events := some q })
  | none => (false, b)

def sendRequest (b : BoardBench) (r : Request) : Bool × BoardBench :=
  match sent (QueueName.requests).capacity b.requests r with
  | some q => (true, { b with requests := some q })
  | none => (false, b)

def receiveEvent (b : BoardBench) : Option Event × BoardBench :=
  match b.events with
  | some (e :: q) => (some e, { b with events := some q })
  | _ => (none, b)

def receiveRequest (b : BoardBench) : Option Request × BoardBench :=
  match b.requests with
  | some (r :: q) => (some r, { b with requests := some q })
  | _ => (none, b)

def receiveSubmission (b : BoardBench) : Option Submission × BoardBench :=
  match b.submissions with
  | some (s :: q) => (some s, { b with submissions := some q })
  | _ => (none, b)

def overwriteSubmission (b : BoardBench) (s : Submission) : Bool × BoardBench :=
  if b.submissions.isSome then (true, { b with submissions := some [s] }) else (false, b)

def report (b : BoardBench) (e : Event) : Bool × BoardBench :=
  if b.reports.length < b.reportCapacity then (true, { b with reports := b.reports ++ [e] })
  else (false, b)

/-- How the board answers a call. A sleep outside the tasks moves the clock on. -/
def respond : (c : Board.Call) → BoardBench → Board.Answer c × BoardBench
  | .pinMode _ _, b => ((), b)
  | .digitalWrite p high, b => ((), b.setPin p high)
  | .digitalRead p, b => (b.pin p, b)
  | .millis, b => (b.now, b)
  | .pause ms, b => ((), { b with now := b.now + ms })
  | .sleep ticks, b => ((), { b with now := b.now + ticks })
  | .restart, b => ((), b)
  | .hardwareId, b => (b.hardwareId, b)
  | .log line, b => ((), if b.serialLog then b.printed (line ++ [13, 10]) else b)
  | .logToSerial, b => ((), { b with serialLog := true })
  | .serialStart _, b => ((), b)
  | .serialFlush, b => ((), b)
  | .print s, b => ((), b.printed s)
  | .serialInput, b => (b.serialIn, { b with serialIn := [] })
  | .radioMode _, b => (b.modeOk, b)
  | .configureAccessPoint ip _ _, b =>
    (b.addressOk, if b.addressOk then { b with accessPoint := ip } else b)
  | .openAccessPoint _ _, b => (b.accessPointOk, b)
  | .accessPointAddress, b => (b.accessPoint, b)
  | .autoReconnect _, b => ((), b)
  | .joinNetwork _ _, b => ((), b)
  | .leaveNetwork _ _, b => ((), { b with stationStatus := 6 })
  | .stationStatus, b => (b.stationStatus, b)
  | .useSocket _, b => ((), b)
  | .skipCertificate, b => ((), b)
  | .keepAlive _, b => ((), b)
  | .socketTimeout _, b => ((), b)
  | .setServer _ _, b => ((), b)
  | .setBuffer _, b => (b.bufferOk, b)
  | .connectStall, b => (b.connectStall, b)
  | .connect _, b => (b.connectOk, { b with connected := b.connectOk })
  | .publish _ _ _, b => (b.publishOk, b)
  | .subscribe _ _, b => (b.subscribeOk, b)
  | .disconnectStall, b => (b.disconnectStall, b)
  | .disconnect, b => ((), { b with connected := false })
  | .isConnected, b => (b.connected, b)
  | .clientStatus, b => (b.clientStatus, b)
  | .pollClient, b => (b.inbox, { b with inbox := [] })
  | .openStorage _ _, b => (b.storageOk, b)
  | .hasKey key, b => ((b.storage.find? key).isSome, b)
  | .valueLength key, b => ((b.storage.get key).length, b)
  | .readValue key room, b => (b.readValue key room, b)
  | .writeValue key value, b => b.writeValue key value
  | .removeKey key, b => b.removeKey key
  | .newPixels _ _ _, b => ((), b)
  | .startPixels, b => ((), b)
  | .clearPixels, b => ((), b)
  | .showPixels, b => ((), b)
  | .setPixel _ _, b => ((), b)
  | .createQueue q, b => b.createQueue q
  | .queueExists q, b => (b.queueExists q, b)
  | .sendEvent e, b => b.sendEvent e
  | .sendEventFromInterrupt e, b =>
    (((b.sendEvent e).1, (b.sendEvent e).1 && b.interruptWakes), (b.sendEvent e).2)
  | .inInterrupt, b => (b.inInterrupt, b)
  | .yieldFromInterrupt, b => ((), b)
  | .receiveEvent, b => b.receiveEvent
  | .eventsWaiting, b => ((b.events.getD []).length, b)
  | .countEventDrop, b => ((), { b with eventDrops := b.eventDrops + 1 })
  | .eventDrops, b => (b.eventDrops, b)
  | .overwriteSubmission s, b => b.overwriteSubmission s
  | .receiveSubmission, b => b.receiveSubmission
  | .sendRequest r, b => b.sendRequest r
  | .receiveRequest, b => b.receiveRequest
  | .requestsWaiting, b => ((b.requests.getD []).length, b)
  | .countRequestDrop, b => ((), { b with requestDrops := b.requestDrops + 1 })
  | .requestDrops, b => (b.requestDrops, b)
  | .setDraining on, b => ((), { b with draining := on })
  | .draining, b => (b.draining, b)
  | .createTask t, b => b.createTask t
  | .report e, b => b.report e

def environment : Environment Board BoardBench := ⟨respond⟩

/-- A board and the record of what was asked of it in the present step, the newest exchange
first. -/
abbrev Traced := BoardBench × List (Exchange Board)

/-- Runs a program on the board. -/
def perform {α : Type} (b : Traced) (p : Program Board α) : α × Traced :=
  p.run environment.recorded b

/-! ### Settings -/

/-- A change to the board from outside. -/
inductive Setting
  | modeOk (ok : Bool)
  | addressOk (ok : Bool)
  | accessPointOk (ok : Bool)
  | stationStatus (code : UInt8)
  | bufferOk (ok : Bool)
  | connectOk (ok : Bool)
  | publishOk (ok : Bool)
  | subscribeOk (ok : Bool)
  | connected (on : Bool)
  | clientStatus (code : Int)
  | connectStall (ms : UInt32)
  | disconnectStall (ms : UInt32)
  | storageOk (ok : Bool)
  | failWrites (n : Nat)
  | failRemoves (n : Nat)
  | queueFailsAt (n : Int)
  | taskFailsAt (n : Int)
  | inInterrupt (on : Bool)
  | interruptWakes (on : Bool)
  | hardwareId (n : UInt64)
  | pin (p : UInt8) (high : Bool)
  /-- Stores a value; no value erases the key. -/
  | store (key : Bytes) (value : Option Bytes)
  | storeConfig (key : Bytes) (seq : UInt32) (c : Config)
  | message (topic : Option Bytes) (payload : Bytes)
  | serialInput (s : Bytes)

def apply (b : BoardBench) : Setting → BoardBench
  | .modeOk ok => { b with modeOk := ok }
  | .addressOk ok => { b with addressOk := ok }
  | .accessPointOk ok => { b with accessPointOk := ok }
  | .stationStatus code => { b with stationStatus := code }
  | .bufferOk ok => { b with bufferOk := ok }
  | .connectOk ok => { b with connectOk := ok }
  | .publishOk ok => { b with publishOk := ok }
  | .subscribeOk ok => { b with subscribeOk := ok }
  | .connected on => { b with connected := on }
  | .clientStatus code => { b with clientStatus := code }
  | .connectStall ms => { b with connectStall := ms }
  | .disconnectStall ms => { b with disconnectStall := ms }
  | .storageOk ok => { b with storageOk := ok }
  | .failWrites n => { b with failWrites := n }
  | .failRemoves n => { b with failRemoves := n }
  | .queueFailsAt n => { b with queueFailsAt := n }
  | .taskFailsAt n => { b with taskFailsAt := n }
  | .inInterrupt on => { b with inInterrupt := on }
  | .interruptWakes on => { b with interruptWakes := on }
  | .hardwareId n => { b with hardwareId := n }
  | .pin p high => b.setPin p high
  | .store key (some value) => { b with storage := b.storage.set key value }
  | .store key none => { b with storage := b.storage.erase key }
  | .storeConfig key seq c => { b with storage := b.storage.set key (Record.encode c seq) }
  | .message topic payload => { b with inbox := b.inbox ++ [(topic, payload)] }
  | .serialInput s => { b with serialIn := b.serialIn ++ s }

end BoardBench

end DoorControl
