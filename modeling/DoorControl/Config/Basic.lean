import DoorControl.Text

/-!
The stored configuration of a device. It is always replaced whole.
-/

namespace DoorControl

open Bytes

/-- What a device has to be told before it can run. -/
structure Config where
  wifiSsid : Text 64 := .blank
  wifiPass : Text 64 := .blank
  mqttHost : Text 64 := .blank
  mqttPort : UInt16 := 1883
  mqttUser : Text 64 := .blank
  mqttPass : Text 64 := .blank
  /-- TLS, without a check of the broker's certificate. -/
  mqttTls : Bool := false
  deviceId : Text 16 := .blank
  deviceName : Text 64 := .blank
  /-- A high level on the strike pin locks; otherwise a low level does. -/
  lockActiveHigh : Bool := false
deriving DecidableEq

instance : Inhabited Config := ⟨{}⟩

namespace Config

/-- Every field that a running device needs is there. Only the broker user may be empty. -/
def complete (c : Config) : Bool :=
  c.wifiSsid.present && c.wifiPass.present && c.mqttHost.present && c.mqttPass.present &&
    c.mqttUser.terminated && c.deviceId.present && c.deviceName.present && c.mqttPort != 0

/-- The two configurations read the same in every field. -/
def same (a b : Config) : Bool :=
  a.wifiSsid.same b.wifiSsid && a.wifiPass.same b.wifiPass && a.mqttHost.same b.mqttHost &&
    a.mqttPort == b.mqttPort && a.mqttUser.same b.mqttUser && a.mqttPass.same b.mqttPass &&
    a.mqttTls == b.mqttTls && a.deviceId.same b.deviceId && a.deviceName.same b.deviceName &&
    a.lockActiveHigh == b.lockActiveHigh

/-- The configuration with every text in normal form. -/
def normal (c : Config) : Config :=
  { c with
    wifiSsid := c.wifiSsid.normal
    wifiPass := c.wifiPass.normal
    mqttHost := c.mqttHost.normal
    mqttUser := c.mqttUser.normal
    mqttPass := c.mqttPass.normal
    deviceId := c.deviceId.normal
    deviceName := c.deviceName.normal }

end Config

end DoorControl
