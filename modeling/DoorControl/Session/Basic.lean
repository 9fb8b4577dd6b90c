import DoorControl.Hardware
import DoorControl.Session.Document

/-!
The broker session on top of the transport: connect, announce the device, subscribe to its commands,
then keep the retained state topic current. Any failure backs off and starts over as a new
connection generation.
-/

namespace DoorControl

structure Session where
  configured : Bool := false
  stopped : Bool := false
  connection : ConnectRequest := {}
  topics : Topics := {}
  /-- The discovery document. -/
  discovery : Bytes := []
  state : SessionState := .idle
  /-- The number of the present connection attempt, counted around 256. -/
  generation : UInt8 := 0
  /-- Failed attempts since the last subscription. -/
  failures : UInt8 := 0
  startedAt : Clock := 0
  retryAt : Clock := 0
  /-- The state to publish. -/
  lock : LockState := .locked
  door : DoorState := .unknown
  /-- That state was not published yet. -/
  dirty : Bool := false

namespace Session

open Bytes Hardware

def tag : Bytes := ascii "MQTT"

/-- The room for a payload, its closing zero included. -/
def payloadRoom : Nat := 1536

def online : Bytes := ascii "online"
def offline : Bytes := ascii "offline"

/-- The name under which a device connects. -/
def clientId (deviceId : Bytes) : Bytes := ascii "doorctl-" ++ deviceId

/-- Why an attempt failed. -/
inductive Failure
  | refused
  | connect
  | announce
  | publish
  | timeout
deriving DecidableEq

def Failure.message : Failure → Bytes
  | refused => ascii "connect request rejected"
  | connect => ascii "connect failed"
  | announce => ascii "announce request rejected"
  | publish => ascii "publish failed"
  | timeout => ascii "session setup timeout"

/-! ### Configuration -/

/-- What to connect with, and which topic the broker speaks on when the connection dies. -/
def connectionOf (c : Config) (t : Topics) : ConnectRequest where
  host := clip 64 c.mqttHost.view
  port := c.mqttPort
  user := clip 64 c.mqttUser.view
  pass := clip 64 c.mqttPass.view
  tls := c.mqttTls
  clientId := clip 32 (clientId c.deviceId.view)
  willTopic := clip 64 t.availability

/-- Names the topics and writes the discovery document. Without them the session does nothing. -/
def configure (s : Session) (c : Config) : Program Hardware (Bool × Session) := do
  let (named, topics) := s.topics.build c.deviceId.view
  let s := { s with configured := false, topics := topics }
  if !named then
    error tag (ascii "device id does not fit topics")
    pure (false, s)
  else
    match Document.discovery? c topics with
    | none =>
      error tag (ascii "discovery document too large")
      pure (false, s)
    | some d =>
      let s := { s with discovery := clip payloadRoom d }
      if !fits payloadRoom d then
        error tag (ascii "discovery document too large")
        pure (false, s)
      else pure (true, { s with connection := connectionOf c topics, configured := true })

/-! ### Changes of state -/

/-- Goes to a state and reports it; staying in a state reports nothing. -/
def transition (s : Session) (next : SessionState) (now : Clock) : Program Hardware Session :=
  if next = s.state then pure s
  else do
    postOrWarn tag { kind := .sessionChanged, time := now, arg := next.code }
    pure { s with state := next }

/-- Takes leave of the broker as far as the state asks for it. -/
def teardown (s : Session) : Program Hardware Unit := do
  if s.state.announced then
    unless ← request (.publish s.generation s.topics.availability offline true) do
      warn tag (ascii "offline notice not queued")
  if s.state.active then
    unless ← request (.disconnect s.generation) do
      warn tag (ascii "disconnect not queued")

/-- Ends an attempt and sets the time of the next one. -/
def fail (t : Timing) (s : Session) (now : Clock) (why : Failure) : Program Hardware Session := do
  s.teardown
  let delay := backoffDelay t.mqttBackoffBase t.mqttBackoffMax s.failures
  let s := { s with failures := countFailure s.failures, retryAt := now + delay }
  warn tag (why.message ++ ascii ", retry " ++ decimal s.failures.toNat ++ ascii " in " ++
    decimal delay.toNat ++ ascii " ms")
  s.transition .backoff now

/-- The connection is gone. That counts as the first failure of a new row. -/
def lose (t : Timing) (s : Session) (now : Clock) : Program Hardware Session := do
  let s := { s with
    retryAt := now + backoffDelay t.mqttBackoffBase t.mqttBackoffMax 0
    failures := 1 }
  warn tag (ascii "connection lost")
  s.transition .backoff now

/-- Starts an attempt under a new generation. -/
def connect (t : Timing) (s : Session) (now : Clock) : Program Hardware Session := do
  let g := s.generation + 1
  let s ← { s with
    generation := g
    connection := { s.connection with generation := g }
    startedAt := now }.transition .connecting now
  if ← request (.connect s.connection) then
    info tag (ascii "connecting " ++ s.connection.host ++ ascii ":" ++
      decimal s.connection.port.toNat ++ ascii " gen=" ++ decimal s.generation.toNat)
    pure s
  else
    s.fail t now .refused

/-- Announces the device and asks for its commands, up to the first request refused. -/
def announce (s : Session) : Program Hardware Bool := do
  if ← request (.publish s.generation s.topics.discovery s.discovery true) then
    if ← request (.publish s.generation s.topics.availability online true) then
      request (.subscribe s.generation s.topics.command)
    else pure false
  else pure false

/-- The connection stands. -/
def enterConnected (t : Timing) (s : Session) (now : Clock) : Program Hardware Session := do
  let s ← s.transition .connected now
  if ← s.announce then pure s else s.fail t now .announce

/-- The room for a state document, its closing zero included. -/
def stateRoom : Nat := 64

/-- Publishes the state if that is still to be done. A refused publish stays to be done. -/
def publishPending (s : Session) : Program Hardware Session :=
  if !s.dirty || !fits stateRoom (Document.state s.lock s.door) then pure s
  else do
    if ← request (.publish s.generation s.topics.state (Document.state s.lock s.door) true) then
      pure { s with dirty := false }
    else pure s

/-- The commands are subscribed to: the present state is published. -/
def enterSubscribed (s : Session) (now : Clock) : Program Hardware Session := do
  info tag (ascii "subscribed " ++ s.topics.command)
  let s ← { s with failures := 0 }.transition .subscribed now
  { s with dirty := true }.publishPending

/-! ### Operations -/

/-- Moves the session on. Without a link it goes back to idle. -/
def update (t : Timing) (s : Session) (linkUp : Bool) (now : Clock) : Program Hardware Session :=
  if !s.configured || s.stopped then pure s
  else if !linkUp then
    if s.state = .idle then pure s
    else do
      s.teardown
      s.transition .idle now
  else
    match s.state with
    | .idle => s.connect t now
    | .backoff => if Clock.reached now s.retryAt then s.connect t now else pure s
    | .connecting | .connected =>
      if t.mqttConnectTimeout ≤ now - s.startedAt then s.fail t now .timeout else pure s
    | .subscribed => s.publishPending

/-- Passes a command from the broker on. -/
def receive (s : Session) (payload : Bytes) (now : Clock) : Program Hardware Session := do
  match LockState.ofCommand? payload with
  | none => warn tag (ascii "unknown command '" ++ payload ++ ascii "'")
  | some l =>
    unless ← post { kind := .lockCommand, time := now, arg := l.code } do
      warn tag (ascii "event queue full, command dropped")
  pure s

/-- Takes a result of the transport. One of another generation than the present is stale. -/
def handle (t : Timing) (s : Session) (e : Event) (now : Clock) : Program Hardware Session :=
  if !s.configured || s.stopped then pure s
  else if e.arg ≠ s.generation then pure s
  else
    match e.kind with
    | .transportUp => if s.state = .connecting then s.enterConnected t now else pure s
    | .transportFailed => if s.state = .connecting then s.fail t now .connect else pure s
    | .subscribed => if s.state = .connected then s.enterSubscribed now else pure s
    | .publishFailed => if s.state.announced then s.fail t now .publish else pure s
    | .transportLost => if s.state.active then s.lose t now else pure s
    | .message => if s.state = .subscribed then s.receive e.text.view now else pure s
    | _ => pure s

/-- Records the state of the device and publishes it when the broker can be spoken to. -/
def publish (s : Session) (l : LockState) (d : DoorState) : Program Hardware Session :=
  let s := { s with lock := l, door := d, dirty := true }
  if s.state = .subscribed && !s.stopped then s.publishPending else pure s

/-- Takes leave and waits for the requests on their way; the session does nothing afterwards. -/
def shutdown (t : Timing) (s : Session) : Program Hardware Session :=
  if s.stopped then pure s
  else do
    s.teardown
    if s.state.active then
      unless ← flush t.mqttFlushTimeout do
        warn tag (ascii "requests still pending at shutdown")
    pure { s with stopped := true }

end Session

end DoorControl
