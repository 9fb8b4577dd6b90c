import DoorControl.Bytes

/-!
What the parts of the device can be in. States that travel as a byte keep every byte: a code that
names no state has the name `unknown`.
-/

namespace DoorControl

/-- What the strike is told to be. -/
structure LockState where
  code : UInt8
deriving DecidableEq

namespace LockState

def locked : LockState := ⟨0⟩
def unlocked : LockState := ⟨1⟩

def name (s : LockState) : Bytes :=
  if s = locked then ascii "Locked"
  else if s = unlocked then ascii "Unlocked"
  else ascii "unknown"

end LockState

/-- What the door contact reports. -/
structure DoorState where
  code : UInt8
deriving DecidableEq

namespace DoorState

/-- No level has been stable for long enough yet. -/
def unknown : DoorState := ⟨0⟩
def opened : DoorState := ⟨1⟩
def closed : DoorState := ⟨2⟩

def name (s : DoorState) : Bytes :=
  if s = opened then ascii "Open"
  else if s = closed then ascii "Closed"
  else if s = unknown then ascii "Unknown"
  else ascii "unknown"

end DoorState

/-- The life of the Wi-Fi link. -/
inductive LinkState
  | uninitialized
  | setupMode
  | connecting
  | connected
  | disconnected
deriving DecidableEq

namespace LinkState

def code : LinkState → UInt8
  | uninitialized => 0
  | setupMode => 1
  | connecting => 2
  | connected => 3
  | disconnected => 4

def ofCode? : UInt8 → Option LinkState
  | 0 => some uninitialized
  | 1 => some setupMode
  | 2 => some connecting
  | 3 => some connected
  | 4 => some disconnected
  | _ => none

def name : LinkState → Bytes
  | uninitialized => ascii "uninitialized"
  | setupMode => ascii "setup_mode"
  | connecting => ascii "connecting"
  | connected => ascii "connected"
  | disconnected => ascii "disconnected"

theorem ofCode?_code (s : LinkState) : ofCode? s.code = some s := by
  cases s <;> rfl

/-- The name that goes with a code. -/
def nameOfCode (c : UInt8) : Bytes := ((ofCode? c).map name).getD (ascii "unknown")

end LinkState

/-- The life of the broker session. -/
inductive SessionState
  | idle
  | connecting
  | connected
  | subscribed
  | backoff
deriving DecidableEq

namespace SessionState

def code : SessionState → UInt8
  | idle => 0
  | connecting => 1
  | connected => 2
  | subscribed => 3
  | backoff => 4

def ofCode? : UInt8 → Option SessionState
  | 0 => some idle
  | 1 => some connecting
  | 2 => some connected
  | 3 => some subscribed
  | 4 => some backoff
  | _ => none

def name : SessionState → Bytes
  | idle => ascii "idle"
  | connecting => ascii "connecting"
  | connected => ascii "connected"
  | subscribed => ascii "subscribed"
  | backoff => ascii "backoff"

theorem ofCode?_code (s : SessionState) : ofCode? s.code = some s := by
  cases s <;> rfl

/-- The name that goes with a code. -/
def nameOfCode (c : UInt8) : Bytes := ((ofCode? c).map name).getD (ascii "unknown")

/-- The device has announced itself, or is about to. -/
def announced : SessionState → Bool
  | connected => true
  | subscribed => true
  | _ => false

/-- There is, or is going to be, a connection. -/
def active : SessionState → Bool
  | connecting => true
  | connected => true
  | subscribed => true
  | _ => false

end SessionState

/-- What the radio says of the station link. -/
inductive RadioStatus
  | down
  | up
  | failed
deriving DecidableEq

namespace RadioStatus

def code : RadioStatus → UInt8
  | down => 0
  | up => 1
  | failed => 2

def ofCode? : UInt8 → Option RadioStatus
  | 0 => some down
  | 1 => some up
  | 2 => some failed
  | _ => none

def name : RadioStatus → Bytes
  | down => ascii "down"
  | up => ascii "up"
  | failed => ascii "failed"

/-- The name that goes with a code. -/
def nameOfCode (c : UInt8) : Bytes := ((ofCode? c).map name).getD (ascii "unknown")

end RadioStatus

/-- The colours of the status light. -/
structure LightColor where
  code : UInt8
deriving DecidableEq

namespace LightColor

def off : LightColor := ⟨0⟩
def red : LightColor := ⟨1⟩
def green : LightColor := ⟨2⟩
def amber : LightColor := ⟨3⟩

def name (c : LightColor) : Bytes :=
  if c = off then ascii "off"
  else if c = red then ascii "red"
  else if c = green then ascii "green"
  else if c = amber then ascii "amber"
  else ascii "unknown"

end LightColor

/-- What the status light is to show. -/
structure LightPattern where
  color : LightColor := .red
  blink : Bool := false
deriving DecidableEq

/-- The pattern for a device state. Setup mode wins over everything, green needs a Wi-Fi link, and
steady green needs the command subscription. A link code that names no state counts as not yet
connected. -/
def LightPattern.of (setup : Bool) (link : Option LinkState) (session : Option SessionState) :
    LightPattern :=
  if setup || link = some .setupMode then ⟨.amber, true⟩
  else if link = some .disconnected then ⟨.green, true⟩
  else if link ≠ some .connected then ⟨.red, false⟩
  else if session = some .subscribed then ⟨.green, false⟩
  else ⟨.green, true⟩

end DoorControl
