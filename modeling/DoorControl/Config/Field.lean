import DoorControl.Config.Basic
import DoorControl.Config.Value

/-!
Configuration fields by name, and single edits. The device id is not a field that can be set by
name.
-/

namespace DoorControl

open Bytes

/-- The fields that can be set by name. -/
inductive Field
  | wifiSsid
  | wifiPass
  | mqttHost
  | mqttPort
  | mqttUser
  | mqttPass
  | mqttTls
  | deviceName
  | lockActiveHigh
deriving DecidableEq

namespace Field

def key : Field → Bytes
  | wifiSsid => ascii "wifi_ssid"
  | wifiPass => ascii "wifi_pass"
  | mqttHost => ascii "mqtt_host"
  | mqttPort => ascii "mqtt_port"
  | mqttUser => ascii "mqtt_user"
  | mqttPass => ascii "mqtt_pass"
  | mqttTls => ascii "mqtt_tls"
  | deviceName => ascii "device_name"
  | lockActiveHigh => ascii "lock_active_high"

def all : List Field :=
  [wifiSsid, wifiPass, mqttHost, mqttPort, mqttUser, mqttPass, mqttTls, deviceName, lockActiveHigh]

def ofKey? (k : Bytes) : Option Field := all.find? (·.key == k)

end Field

namespace Config

/-- Sets a field to a value that is not empty; nothing when the value is not one of the field's. -/
def set? (c : Config) (f : Field) (v : Bytes) : Option Config :=
  match f with
  | .wifiSsid => (Text.ofBytes? v).map fun t => { c with wifiSsid := t }
  | .wifiPass => (Text.ofBytes? v).map fun t => { c with wifiPass := t }
  | .mqttHost => (Text.ofBytes? v).map fun t => { c with mqttHost := t }
  | .mqttUser => (Text.ofBytes? v).map fun t => { c with mqttUser := t }
  | .mqttPass => (Text.ofBytes? v).map fun t => { c with mqttPass := t }
  | .deviceName => (Text.ofBytes? v).map fun t => { c with deviceName := t }
  | .mqttTls => (switch? v).map fun b => { c with mqttTls := b }
  | .lockActiveHigh => (switch? v).map fun b => { c with lockActiveHigh := b }
  | .mqttPort => (port? v).map fun p => { c with mqttPort := p }

/-- One edit by key. An empty value leaves the field as it is; a key that names no field is
refused. -/
def edit? (c : Config) (key value : Bytes) : Option Config :=
  match Field.ofKey? key with
  | none => none
  | some f => if value = [] then some c else c.set? f value

/-- One edit; an absent key or value is refused. -/
def editWith? (c : Config) : Option Bytes → Option Bytes → Option Config
  | some key, some value => c.edit? key value
  | _, _ => none

/-- The edits one after another, a refused one changing nothing, with what was made of each. -/
def edits (c : Config) : List (Option Bytes × Option Bytes) → List (Bool × Config)
  | [] => []
  | (k, v) :: rest =>
    let next := (c.editWith? k v).getD c
    ((c.editWith? k v).isSome, next) :: next.edits rest

end Config

end DoorControl
