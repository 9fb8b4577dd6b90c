import DoorControl.Config.Basic
import DoorControl.Session.Topics
import DoorControl.State

/-!
The JSON documents that the device publishes: its state, and the discovery document that announces
it to the home server. Both are written without spaces.
-/

namespace DoorControl

open Bytes

/-- A JSON document. Strings and keys are given as they stand between their quotes. -/
inductive Json
  | text (written : Bytes)
  | number (n : Nat)
  | truth (b : Bool)
  | list (items : List Json)
  | record (members : List (Bytes × Json))

namespace Json

def quoted (written : Bytes) : Bytes := [34] ++ written ++ [34]

/-- How a byte is written inside a string: quotes and backslashes behind a backslash, control
characters as four hexadecimal digits. -/
def escapeByte (b : UInt8) : Bytes :=
  if b = 34 then [92, 34]
  else if b = 92 then [92, 92]
  else if b < 32 then ascii "\\u00" ++ hexPair b
  else [b]

def escape (s : Bytes) : Bytes := s.flatMap escapeByte

mutual

def render : Json → Bytes
  | text s => quoted s
  | number n => decimal n
  | truth b => if b then ascii "true" else ascii "false"
  | list items => [91] ++ renderItems items ++ [93]
  | record members => [123] ++ renderMembers members ++ [125]

def renderItems : List Json → Bytes
  | [] => []
  | [v] => v.render
  | v :: rest => v.render ++ [44] ++ renderItems rest

def renderMembers : List (Bytes × Json) → Bytes
  | [] => []
  | [(k, v)] => quoted k ++ [58] ++ v.render
  | (k, v) :: rest => quoted k ++ [58] ++ v.render ++ [44] ++ renderMembers rest

end

end Json

/-- Says of a command which lock state it asks for. -/
def LockState.ofCommand? (s : Bytes) : Option LockState :=
  if matchesWord s (ascii "LOCK") then some .locked
  else if matchesWord s (ascii "UNLOCK") then some .unlocked
  else none

namespace Document

/-- The state of the device. -/
def state (l : LockState) (d : DoorState) : Bytes :=
  (Json.record [(ascii "lock", .text l.name), (ascii "door", .text d.name)]).render

/-- The room that the escaped device name has. -/
def nameRoom : Nat := 384

/-- The lock as the home server is to show it. -/
def lockComponent (id : Bytes) (t : Topics) : Json := .record [
  (ascii "platform", .text (ascii "lock")),
  (ascii "unique_id", .text (id ++ ascii "_lock")),
  (ascii "name", .text (ascii "Lock")),
  (ascii "state_topic", .text t.state),
  (ascii "command_topic", .text t.command),
  (ascii "value_template", .text (ascii "\x7b\x7b value_json.lock \x7d\x7d")),
  (ascii "payload_lock", .text (ascii "LOCK")),
  (ascii "payload_unlock", .text (ascii "UNLOCK")),
  (ascii "state_locked", .text LockState.locked.name),
  (ascii "state_unlocked", .text LockState.unlocked.name),
  (ascii "optimistic", .truth false),
  (ascii "retain", .truth false)]

/-- The door contact as the home server is to show it. -/
def doorComponent (id : Bytes) (t : Topics) : Json := .record [
  (ascii "platform", .text (ascii "binary_sensor")),
  (ascii "device_class", .text (ascii "door")),
  (ascii "unique_id", .text (id ++ ascii "_door")),
  (ascii "name", .text (ascii "Door")),
  (ascii "state_topic", .text t.state),
  (ascii "value_template", .text (ascii "\x7b\x7b value_json.door \x7d\x7d")),
  (ascii "payload_on", .text DoorState.opened.name),
  (ascii "payload_off", .text DoorState.closed.name)]

/-- The discovery document of a device. The device id stands in it unescaped. -/
def discoveryOf (id name : Bytes) (t : Topics) : Json := .record [
  (ascii "device", .record [
    (ascii "identifiers", .list [.text id]),
    (ascii "name", .text (Json.escape name))]),
  (ascii "origin", .record [
    (ascii "name", .text (ascii "doorctl")),
    (ascii "sw_version", .text (ascii "0.1.0"))]),
  (ascii "components", .record [
    (id ++ ascii "_lock", lockComponent id t),
    (id ++ ascii "_door", doorComponent id t)]),
  (ascii "availability_topic", .text t.availability),
  (ascii "availability_mode", .text (ascii "latest")),
  (ascii "qos", .number 1)]

/-- The discovery document of a configuration. There is none when the escaped device name is too
long. -/
def discovery? (c : Config) (t : Topics) : Option Bytes :=
  if fits nameRoom (Json.escape c.deviceName.view) then
    some (discoveryOf c.deviceId.view c.deviceName.view t).render
  else none

end Document

end DoorControl
