import DoorControl.Button
import DoorControl.Config.Store
import DoorControl.Indicator
import DoorControl.Link
import DoorControl.Session.Basic
import DoorControl.Snapshot
import DoorControl.Strike

/-!
The device: its parts, and the handling of the events they report. Everything that changes the
device goes through `start`, `tick` and `handle`; the console only posts events and reads the
snapshot.
-/

namespace DoorControl

namespace Pin

/-- The pins the parts are wired to. -/
def strike : UInt8 := 1
def contact : UInt8 := 2
/-- The button pulls its pin low. -/
def button : UInt8 := 3
def light : UInt8 := 8

end Pin

structure Device where
  timing : Timing
  strike : Strike
  button : Button
  link : Link := {}
  session : Session := {}
  indicator : Indicator
  config : Config := {}
  hasConfig : Bool := false
  /-- The identity of the hardware. -/
  deviceId : Bytes := []
  /-- The door as last reported. -/
  door : DoorState := .unknown
  rebootPending : Bool := false
  lastTick : Clock := 0
  now : Clock := 0
  snapshot : Snapshot := .pack {}

namespace Device

open Bytes Hardware

/-- How brightly the status light shines. -/
def lightIntensity : UInt8 := 32

/-- A device that has not been started. -/
def new (t : Timing) : Device where
  timing := t
  strike := { pin := Pin.strike, contact := { pin := Pin.contact, debounce := t.doorDebounce } }
  button := { hold := t.resetHold }
  indicator := { intensity := lightIntensity }

/-- Why the device restarts. -/
inductive RebootReason
  | stationRefused
  | setupRefused
  | configSaved
  | factoryReset
deriving DecidableEq

def RebootReason.message : RebootReason → Bytes
  | stationRefused => ascii "station start refused"
  | setupRefused => ascii "setup mode refused"
  | configSaved => ascii "config saved"
  | factoryReset => ascii "factory reset"

/-- Asks for a restart, once. -/
def reboot (d : Device) (why : RebootReason) : Program Hardware Device :=
  if d.rebootPending then pure d
  else do
    warn (ascii "APP") (ascii "reboot: " ++ why.message)
    restart
    pure { d with rebootPending := true }

/-- The device is waiting to be configured. -/
def inSetup (d : Device) : Bool := d.link.state == .setupMode

/-- The pattern that the light should show. -/
def lightPattern (d : Device) : LightPattern :=
  .of d.inSetup (some d.link.state) (some d.session.state)

/-- The present state of the parts. -/
def systemState (d : Device) : SystemState where
  lock := d.strike.lock
  door := d.door
  link := d.link.state
  session := d.session.state
  attempt := d.session.failures
  setup := d.inSetup
  light := d.indicator.pattern

/-- Brings the light and the snapshot up to date. -/
def refresh (d : Device) (now : Clock) : Program Hardware Device := do
  let (_, indicator) ← d.indicator.apply d.lightPattern now
  let d := { d with indicator := indicator }
  pure { d with snapshot := .pack d.systemState }

/-! ### Start -/

def startSetup (d : Device) (now : Clock) : Program Hardware Device := do
  let (opened, link) ← d.link.enterSetup now
  let d := { d with link := link }
  if opened then pure d else d.reboot .setupRefused

/-- Takes up the role that the stored configuration gives: a station with one, setup mode without
one or with one that cannot be used. -/
def startRole (d : Device) (now : Clock) : Program Hardware Device :=
  if !d.hasConfig then do
    info (ascii "APP") (ascii "no config, device " ++ d.deviceId)
    d.startSetup now
  else do
    let (usable, session) ← d.session.configure d.config
    let d := { d with session := session }
    if !usable then
      error (ascii "APP") (ascii "stored config unusable")
      { d with hasConfig := false }.startSetup now
    else
      info (ascii "APP") (ascii "config loaded, device " ++ d.config.deviceId.view ++ ascii " (" ++
        d.config.deviceName.view ++ ascii ")")
      let (started, link) ← d.link.start d.timing d.config now
      let d := { d with link := link }
      if started then pure d else d.reboot .stationRefused

/-- Starts the device: the door is locked before anything else is tried. -/
def start (d : Device) (now : Clock) : Program Hardware Device := do
  let indicator ← d.indicator.start now
  let deviceId ← Hardware.deviceId 16
  pinInput Pin.button
  let stored ← Store.load
  let config := stored.getD d.config
  let strike ← d.strike.start (stored.isSome && config.lockActiveHigh) now
  let d ← { d with
    now := now
    lastTick := now
    indicator := indicator
    deviceId := deviceId
    config := config
    hasConfig := stored.isSome
    strike := strike }.startRole now
  d.refresh now

/-! ### Time -/

/-- Samples the inputs and moves every part on. -/
def tick (d : Device) (now : Clock) : Program Hardware Device :=
  if d.rebootPending then pure d
  else do
    let strike ← d.strike.sample now
    let high ← pinRead Pin.button
    let button ← d.button.tick (!high) (now - d.lastTick) now
    let link ← d.link.update d.timing now
    let session ← d.session.update d.timing (link.state == .connected) now
    let indicator ← d.indicator.update d.timing now
    pure { d with
      strike := strike
      button := button
      link := link
      session := session
      indicator := indicator
      lastTick := now
      now := now }

/-! ### Events -/

/-- Takes leave of the broker, then of the network. -/
def goOffline (d : Device) : Program Hardware Device := do
  let session ← d.session.shutdown d.timing
  let link ← d.link.shutdown
  pure { d with session := session, link := link }

/-- The configuration that a submission comes to; the device's own identity stands in for an
absent one. -/
def configWith (d : Device) (s : Submission) : Config :=
  let next := (if d.hasConfig then d.config else {}).merge s
  if next.deviceId.view = [] then { next with deviceId := .ofBytes d.deviceId } else next

/-- Stores what was submitted and restarts. A submission that is incomplete or cannot be stored
changes nothing. -/
def applySubmission (d : Device) : Program Hardware Device := do
  match ← take with
  | none =>
    warn (ascii "CFG") (ascii "submission without config")
    pure d
  | some s =>
    if !(d.configWith s).complete then
      warn (ascii "CFG") (ascii "submission rejected: incomplete")
      pure d
    else
      match ← Store.save (d.configWith s) with
      | some e =>
        error (ascii "CFG") (ascii "save failed: " ++ e.name)
        pure d
      | none =>
        let d ← d.goOffline
        d.reboot .configSaved

/-- Erases the stored configuration, in up to `left` more attempts. -/
def eraseWithin (left : Nat) (attempt : Nat) : Program Hardware Bool :=
  match left with
  | 0 => pure false
  | left + 1 => do
    match ← Store.erase with
    | none => pure true
    | some e =>
      error (ascii "CFG") (ascii "erase attempt " ++ decimal attempt ++ ascii ": " ++ e.name)
      eraseWithin left (attempt + 1)

/-- The number of erase attempts: at least one. -/
def eraseAttempts (t : Timing) : Nat := max 1 t.eraseRetryLimit.toNat

/-- Goes offline, erases the configuration and restarts, whatever fails on the way. -/
def factoryReset (d : Device) (source : UInt8) : Program Hardware Device := do
  warn (ascii "APP") (ascii "factory reset (" ++
    (if source = Event.fromButton then ascii "button" else ascii "remote") ++ ascii ")")
  let d ← d.goOffline
  unless ← eraseWithin (eraseAttempts d.timing) 1 do
    error (ascii "APP") (ascii "config not erased, rebooting anyway")
  { d with hasConfig := false }.reboot .factoryReset

/-- Passes the present lock and door to the session. -/
def publishState (d : Device) : Program Hardware Device := do
  let session ← d.session.publish d.strike.lock d.door
  pure { d with session := session }

/-- Carries out a lock command; an argument that names no lock state is refused. -/
def commandLock (d : Device) (arg : UInt8) : Program Hardware Device :=
  if LockState.unlocked.code < arg then do
    warn (ascii "LOCK") (ascii "bad lock argument " ++ decimal arg.toNat)
    pure d
  else do
    let strike ← d.strike.set ⟨arg⟩ d.now
    pure { d with strike := strike }

/-- What an event does to the parts. -/
def react (d : Device) (e : Event) : Program Hardware Device :=
  match e.kind with
  | .doorChanged => do
    info (ascii "DOOR") (DoorState.name ⟨e.arg⟩)
    { d with door := ⟨e.arg⟩ }.publishState
  | .lockChanged => do
    info (ascii "LOCK") (LockState.name ⟨e.arg⟩)
    d.publishState
  | .lockCommand | .externalLockCommand => d.commandLock e.arg
  | .resetRequested => d.factoryReset e.arg
  | .configSubmitted => d.applySubmission
  | .linkChanged => do
    info (ascii "WIFI") (ascii "state " ++ LinkState.nameOfCode e.arg)
    pure d
  | .sessionChanged => do
    info (ascii "MQTT") (ascii "state " ++ SessionState.nameOfCode e.arg)
    pure d
  | .transportUp | .transportFailed | .transportLost | .subscribed | .publishFailed | .message => do
    let session ← d.session.handle d.timing e d.now
    pure { d with session := session }
  | .unknown _ => pure d

/-- Handles one event. Once a restart is pending, events are discarded and the answer is no. -/
def handle (d : Device) (e : Event) : Program Hardware (Bool × Device) :=
  if d.rebootPending then pure (false, d)
  else do
    let d ← d.react e
    if d.rebootPending then pure (false, d)
    else
      let d ← d.refresh d.now
      pure (true, d)

/-! ### Requests from outside -/

/-- Asks for a lock state. -/
def requestLock (l : LockState) (now : Clock) : Program Hardware Bool :=
  post { kind := .externalLockCommand, time := now, arg := l.code }

/-- Hands a submission in. -/
def submit (s : Submission) (now : Clock) : Program Hardware Bool := do
  if ← offer s then post { kind := .configSubmitted, time := now } else pure false

/-- Asks for a factory reset. -/
def requestReset (now : Clock) : Program Hardware Bool :=
  post { kind := .resetRequested, time := now, arg := Event.fromConsole }

end Device

end DoorControl
