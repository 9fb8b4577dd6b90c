import DoorControl.Hardware

/-!
The Wi-Fi link. Setup mode opens an access point and stays until the restart; a station joins the
configured network and retries for ever, later each time up to a cap.
-/

namespace DoorControl

structure Link where
  state : LinkState := .uninitialized
  ssid : Bytes := []
  pass : Bytes := []
  /-- Failed attempts since the last success. -/
  failures : UInt8 := 0
  startedAt : Clock := 0
  retryAt : Clock := 0
  stopped : Bool := false

namespace Link

open Bytes Hardware

/-- The name of the network that setup mode opens. -/
def setupSsid : Bytes := ascii "DoorControl"

def setupPass : Bytes := ascii "new_door_control"

def tag : Bytes := ascii "WIFI"

/-- Why an attempt failed. -/
inductive Failure
  | refused
  | association
  | timeout
deriving DecidableEq

def Failure.message : Failure → Bytes
  | refused => ascii "station start failed"
  | association => ascii "association failed"
  | timeout => ascii "association timeout"

/-- Goes to a state and reports it; staying in a state reports nothing. -/
def transition (s : Link) (next : LinkState) (now : Clock) : Program Hardware Link :=
  if next = s.state then pure s
  else do
    postOrWarn tag { kind := .linkChanged, time := now, arg := next.code }
    pure { s with state := next }

/-- Ends an attempt and sets the time of the next one. -/
def fail (t : Timing) (s : Link) (now : Clock) (why : Failure) : Program Hardware Link := do
  stopRadio
  let delay := backoffDelay t.wifiBackoffBase t.wifiBackoffMax s.failures
  warn tag (why.message ++ ascii ", retry in " ++ decimal delay.toNat ++ ascii " ms")
  { s with failures := countFailure s.failures, retryAt := now + delay }.transition .disconnected now

/-- Starts an attempt. -/
def connect (t : Timing) (s : Link) (now : Clock) : Program Hardware Link := do
  let s ← { s with startedAt := now }.transition .connecting now
  if ← startStation s.ssid s.pass then
    info tag (ascii "connecting to " ++ s.ssid)
    pure s
  else
    s.fail t now .refused

/-- Opens the access point. Nothing happens once a role was taken. -/
def enterSetup (s : Link) (now : Clock) : Program Hardware (Bool × Link) :=
  if s.state ≠ .uninitialized then do
    error tag (ascii "setup mode requested in state " ++ s.state.name)
    pure (false, s)
  else do
    if ← startAccessPoint setupSsid setupPass then
      let s ← s.transition .setupMode now
      pure (true, s)
    else
      error tag (ascii "access point start failed")
      pure (false, s)

/-- Takes the network of a configuration and starts the first attempt. Nothing happens once a role
was taken. -/
def start (t : Timing) (s : Link) (c : Config) (now : Clock) : Program Hardware (Bool × Link) :=
  if s.state ≠ .uninitialized then do
    error tag (ascii "station requested in state " ++ s.state.name)
    pure (false, s)
  else do
    let s ← { s with
      ssid := clip 64 c.wifiSsid.view
      pass := clip 64 c.wifiPass.view
      failures := 0 }.connect t now
    pure (true, s)

/-- Follows an attempt. -/
def follow (t : Timing) (s : Link) (now : Clock) : Program Hardware Link := do
  match ← radioStatus with
  | .up =>
    info tag (ascii "connected to " ++ s.ssid)
    { s with failures := 0 }.transition .connected now
  | .failed => s.fail t now .association
  | .down =>
    if t.wifiConnectTimeout ≤ now - s.startedAt then s.fail t now .timeout else pure s

/-- Watches over a link. Losing it counts as the first failure of a new row. -/
def watch (t : Timing) (s : Link) (now : Clock) : Program Hardware Link := do
  if (← radioStatus) = .up then pure s
  else
    stopRadio
    warn tag (ascii "link lost")
    { s with retryAt := now + t.wifiBackoffBase, failures := 1 }.transition .disconnected now

def update (t : Timing) (s : Link) (now : Clock) : Program Hardware Link :=
  if s.stopped then pure s
  else
    match s.state with
    | .connecting => s.follow t now
    | .connected => s.watch t now
    | .disconnected => if Clock.reached now s.retryAt then s.connect t now else pure s
    | .uninitialized => pure s
    | .setupMode => pure s

/-- Gives up the radio for good. -/
def shutdown (s : Link) : Program Hardware Link :=
  if s.stopped then pure s
  else do
    if s.state ≠ .uninitialized then stopRadio
    pure { s with stopped := true }

end Link

end DoorControl
