import DoorControl.Clock
import DoorControl.Text

/-!
The events that the parts of the device report. They travel through one queue and are handled one
at a time.
-/

namespace DoorControl

/-- What has happened. -/
inductive EventKind
  | doorChanged
  | lockChanged
  | resetRequested
  | linkChanged
  | sessionChanged
  /-- A lock command came from the broker. -/
  | lockCommand
  /-- A lock command came from the console. -/
  | externalLockCommand
  | configSubmitted
  /-- The results of the transport carry the generation of the connection they belong to. -/
  | transportUp
  | transportFailed
  | transportLost
  | subscribed
  | publishFailed
  | message
  | unknown (code : UInt8)
deriving DecidableEq

namespace EventKind

def code : EventKind → UInt8
  | doorChanged => 0
  | lockChanged => 1
  | resetRequested => 2
  | linkChanged => 3
  | sessionChanged => 4
  | lockCommand => 5
  | externalLockCommand => 6
  | configSubmitted => 7
  | transportUp => 8
  | transportFailed => 9
  | transportLost => 10
  | subscribed => 11
  | publishFailed => 12
  | message => 13
  | unknown c => c

def ofCode : UInt8 → EventKind
  | 0 => doorChanged
  | 1 => lockChanged
  | 2 => resetRequested
  | 3 => linkChanged
  | 4 => sessionChanged
  | 5 => lockCommand
  | 6 => externalLockCommand
  | 7 => configSubmitted
  | 8 => transportUp
  | 9 => transportFailed
  | 10 => transportLost
  | 11 => subscribed
  | 12 => publishFailed
  | 13 => message
  | c => unknown c

def name : EventKind → Bytes
  | doorChanged => ascii "door_changed"
  | lockChanged => ascii "lock_changed"
  | resetRequested => ascii "factory_reset_requested"
  | linkChanged => ascii "connectivity_changed"
  | sessionChanged => ascii "mqtt_state_changed"
  | lockCommand => ascii "lock_command_received"
  | externalLockCommand => ascii "external_lock_command"
  | configSubmitted => ascii "external_config_submitted"
  | transportUp => ascii "mqtt_transport_up"
  | transportFailed => ascii "mqtt_transport_failed"
  | transportLost => ascii "mqtt_transport_lost"
  | subscribed => ascii "mqtt_subscribed"
  | publishFailed => ascii "mqtt_publish_failed"
  | message => ascii "mqtt_message"
  | unknown _ => ascii "unknown"

end EventKind

/-- The room an event has for a text, its closing zero included. -/
def Event.textWidth : Nat := 24

structure Event where
  kind : EventKind
  time : Clock
  arg : UInt8 := 0
  text : Text Event.textWidth := .blank
deriving DecidableEq

/-- The reset button was held. -/
def Event.fromButton : UInt8 := 0

/-- The reset was asked for on the console. -/
def Event.fromConsole : UInt8 := 1

end DoorControl
