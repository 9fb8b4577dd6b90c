import DoorControl.Config.Field

/-!
Submissions: partial configurations that are laid over the current one. A text counts as supplied
when it is present; the port and the switches carry a mark.
-/

namespace DoorControl

open Bytes

structure Submission where
  values : Config := {}
  hasPort : Bool := false
  hasTls : Bool := false
  hasLockPolarity : Bool := false
deriving DecidableEq

instance : Inhabited Submission := ⟨{}⟩

namespace Submission

/-- The submission that replaces every field. -/
def full (c : Config) : Submission := ⟨c, true, true, true⟩

/-- Marks a field as supplied; texts need no mark. -/
def mark (s : Submission) : Field → Submission
  | .mqttPort => { s with hasPort := true }
  | .mqttTls => { s with hasTls := true }
  | .lockActiveHigh => { s with hasLockPolarity := true }
  | _ => s

/-- One edit by key. An empty value leaves the submission as it is. -/
def edit? (s : Submission) (key value : Bytes) : Option Submission :=
  match Field.ofKey? key with
  | none => none
  | some f =>
    if value = [] then some s
    else (s.values.set? f value).map fun c => { s with values := c }.mark f

/-- One edit; an absent key or value is refused. -/
def editWith? (s : Submission) : Option Bytes → Option Bytes → Option Submission
  | some key, some value => s.edit? key value
  | _, _ => none

/-- The edits one after another, a refused one changing nothing: which were accepted, and the
submission after them. -/
def edits (s : Submission) : List (Option Bytes × Option Bytes) → List Bool × Submission
  | [] => ([], s)
  | (k, v) :: rest =>
    let r := ((s.editWith? k v).getD s).edits rest
    ((s.editWith? k v).isSome :: r.1, r.2)

end Submission

/-- The new text where it is present, the old one elsewhere. -/
def Text.over {w : Nat} (new old : Text w) : Text w := if new.present then new.normal else old

/-- The configuration with what a submission supplies laid over it. -/
def Config.merge (base : Config) (s : Submission) : Config where
  wifiSsid := s.values.wifiSsid.over base.wifiSsid
  wifiPass := s.values.wifiPass.over base.wifiPass
  mqttHost := s.values.mqttHost.over base.mqttHost
  mqttPort := if s.hasPort then s.values.mqttPort else base.mqttPort
  mqttUser := s.values.mqttUser.over base.mqttUser
  mqttPass := s.values.mqttPass.over base.mqttPass
  mqttTls := if s.hasTls then s.values.mqttTls else base.mqttTls
  deviceId := s.values.deviceId.over base.deviceId
  deviceName := s.values.deviceName.over base.deviceName
  lockActiveHigh :=
    if s.hasLockPolarity then s.values.lockActiveHigh else base.lockActiveHigh

end DoorControl
