import DoorControl.Board.Queue
import DoorControl.Session.Basic

/-!
The broker client behind a queue of requests. The device's task puts requests in and never waits for
a socket; the transport's task takes them out and carries them out. A request of another connection
generation than the present one is left over from an abandoned session and is dropped.
-/

namespace DoorControl

/-- What the transport's task knows of the connection. -/
structure Transport where
  /-- The generation of the last connect carried out. -/
  generation : UInt8 := 0
  /-- The client was connected when the task last looked. -/
  connected : Bool := false

namespace Transport

open Bytes Board

def tag : Bytes := ascii "MQTT"

/-- Sets the client up, without encryption to begin with. -/
def new : Program Board Unit := do
  ask (.useSocket false)
  ask (.keepAlive 60)
  ask (.socketTimeout 1)

/-! ### The side of the device's task -/

/-- A request as it travels, its texts cut to the room they have. A payload that has no room is not
cut: there is no such request. -/
def queued? : Request → Option Request
  | .connect c => some (.connect c)
  | .publish g topic payload retained =>
    if fits Session.payloadRoom payload then some (.publish g (clip 64 topic) payload retained)
    else none
  | .subscribe g topic => some (.subscribe g (clip 64 topic))
  | .disconnect g => some (.disconnect g)

/-- Puts a request into the queue; one that is refused by a full queue is counted. -/
def enqueue (r : Request) : Program Board Bool := do
  if ← ask (.queueExists .requests) then
    if ← ask (.sendRequest r) then pure true
    else
      ask .countRequestDrop
      pure false
  else pure false

def request (r : Request) : Program Board Bool :=
  match queued? r with
  | some r => enqueue r
  | none => pure false

/-- Publishes; an absent topic or payload is refused. -/
def publishTo (g : UInt8) (topic payload : Option Bytes) (retained : Bool) : Program Board Bool :=
  match topic, payload with
  | some topic, some payload => request (.publish g topic payload retained)
  | _, _ => pure false

/-- Subscribes; an absent topic is refused. -/
def subscribeTo (g : UInt8) : Option Bytes → Program Board Bool
  | some topic => request (.subscribe g topic)
  | none => pure false

/-- Requests wait, or one is being carried out. -/
def busy : Program Board Bool := do
  if 0 < (← ask .requestsWaiting) then pure true else ask .draining

/-- Looks up to `n` times, ten ticks apart, for the requests to be done before the time is up. -/
def awaitIdle (start timeout : UInt32) : Nat → Program Board Bool
  | 0 => pure false
  | n + 1 => do
    if ← busy then
      if timeout ≤ (← millis) - start then pure false
      else
        sleep 10
        awaitIdle start timeout n
    else pure true

/-- Waits until every request is done, or the time is up. Each look comes later than the one before,
so there are no more looks than milliseconds. -/
def flush (timeout : UInt32) : Program Board Bool := do
  if ← ask (.queueExists .requests) then
    awaitIdle (← millis) timeout (timeout.toNat + 1)
  else pure true

/-! ### The side of the transport's task -/

/-- Reports a result of the present generation. -/
def reportResult (report : Event → Program Board Bool) (t : Transport) (k : EventKind) :
    Program Board Unit := do
  unless ← report { kind := k, time := ← millis, arg := t.generation } do
    warn tag (ascii "event queue full, " ++ k.name ++ ascii " dropped")

/-- Waits on the socket and then makes the call it holds up. -/
def stalled {α : Type} (ms : UInt32) (p : Program Board α) : Program Board α := do
  if ms ≠ 0 then sleep ms
  p

/-- Disconnects the client if it is connected. -/
def close (t : Transport) : Program Board Transport := do
  if ← ask .isConnected then
    stalled (← ask .disconnectStall) (ask .disconnect)
  pure { t with connected := false }

/-- The room for a packet: the largest payload and what goes around it. -/
def bufferSize : Nat := Session.payloadRoom + 128

def loginOf (c : ConnectRequest) : Login where
  clientId := c.clientId
  user := if c.user = [] then none else some (c.user, c.pass)
  willTopic := c.willTopic
  willQos := 1
  willRetained := true
  will := Session.offline

/-- Carries a connect out: the old connection is closed, and its generation ends. -/
def connect (report : Event → Program Board Bool) (t : Transport) (c : ConnectRequest) :
    Program Board Transport := do
  let t ← t.close
  let t := { t with generation := c.generation }
  if c.tls then
    ask .skipCertificate
    ask (.useSocket true)
  else
    ask (.useSocket false)
  ask (.setServer c.host c.port)
  if ← ask (.setBuffer bufferSize) then
    if ← stalled (← ask .connectStall) (ask (.connect (loginOf c))) then
      let t := { t with connected := true }
      t.reportResult report .transportUp
      pure t
    else
      warn tag (ascii "connect failed rc=" ++ signed (← ask .clientStatus))
      t.reportResult report .transportFailed
      pure t
  else
    error tag (ascii "buffer allocation failed")
    t.reportResult report .transportFailed
    pure t

/-- Carries one request out. -/
def execute (report : Event → Program Board Bool) (t : Transport) (r : Request) :
    Program Board Transport :=
  match r with
  | .connect c => t.connect report c
  | .publish g topic payload retained =>
    if g ≠ t.generation then pure t
    else do
      let ok ← if t.connected then ask (.publish topic payload retained) else pure false
      unless ok do
        warn tag (ascii "publish " ++ topic ++ ascii " failed")
        t.reportResult report .publishFailed
      pure t
  | .subscribe g topic =>
    if g ≠ t.generation then pure t
    else do
      let ok ← if t.connected then ask (.subscribe topic 1) else pure false
      if ok then t.reportResult report .subscribed
      else
        warn tag (ascii "subscribe " ++ topic ++ ascii " failed")
        t.reportResult report .publishFailed
      pure t
  | .disconnect g => if g ≠ t.generation then pure t else t.close

/-- Carries out up to `n` of the requests that wait. -/
def drain (report : Event → Program Board Bool) (t : Transport) : Nat → Program Board Transport
  | 0 => pure t
  | n + 1 => do
    match ← ask .receiveRequest with
    | none => pure t
    | some r =>
      let t ← t.execute report r
      t.drain report n

/-- Passes a message on; one that is too long for an event is no command and is left. -/
def deliver (report : Event → Program Board Bool) (t : Transport) (topic : Option Bytes)
    (payload : Bytes) : Program Board Unit := do
  let now ← millis
  if fits Event.textWidth payload then
    unless ← report { kind := .message, time := now, arg := t.generation, text := .pad payload } do
      warn tag (ascii "event queue full, message dropped")
  else
    warn tag (ascii "oversized message on " ++ topic.getD (ascii "?") ++ ascii " ignored")

def deliverAll (report : Event → Program Board Bool) (t : Transport) :
    List (Option Bytes × Bytes) → Program Board Unit
  | [] => pure ()
  | (topic, payload) :: rest => do
    t.deliver report topic payload
    t.deliverAll report rest

/-- Looks after the connection: a dead one is reported, a live one is served. -/
def attend (report : Event → Program Board Bool) (t : Transport) : Program Board Transport := do
  if !t.connected then pure t
  else if ← ask .isConnected then
    t.deliverAll report (← ask .pollClient)
    pure t
  else
    let t := { t with connected := false }
    warn tag (ascii "transport lost rc=" ++ signed (← ask .clientStatus))
    t.reportResult report .transportLost
    pure t

/-- One round of the transport's task: a burst of requests, then the connection. -/
def serve (report : Event → Program Board Bool) (t : Transport) : Program Board Transport := do
  if ← ask (.queueExists .requests) then
    ask (.setDraining true)
    let t ← t.drain report (QueueName.requests).capacity
    ask (.setDraining false)
    t.attend report
  else t.attend report

end Transport

end DoorControl
