/-!
The millisecond clock, which wraps at 2^32, and the delays that are set on it.
-/

namespace DoorControl

/-- A reading of the clock, in milliseconds. -/
abbrev Clock := UInt32

namespace Clock

/-- The target is not ahead of now. A target less than 2^31 away is judged right across the wrap. -/
def reached (now target : Clock) : Bool := (now - target).toNat < 0x80000000

end Clock

/-- Doubles a delay up to `n` times and stops at the cap. -/
def doubled (cap : UInt32) : Nat → UInt32 → UInt32
  | 0, d => if d < cap then d else cap
  | n + 1, d => if cap / 2 ≤ d then cap else doubled cap n (d * 2)

/-- The delay before retry number `attempt`: doubled each time, capped. -/
def backoffDelay (base cap : UInt32) (attempt : UInt8) : UInt32 :=
  doubled cap attempt.toNat base

/-- A counter of failures, which stops at 255. -/
def countFailure (n : UInt8) : UInt8 := if n < 255 then n + 1 else n

/-- The times and limits a device works with. -/
structure Timing where
  /-- The door contact must hold a level this long before it is believed. -/
  doorDebounce : UInt32 := 50
  /-- The reset button must be held this long. -/
  resetHold : UInt32 := 5000
  wifiConnectTimeout : UInt32 := 15000
  wifiBackoffBase : UInt32 := 5000
  wifiBackoffMax : UInt32 := 60000
  mqttConnectTimeout : UInt32 := 20000
  mqttBackoffBase : UInt32 := 5000
  mqttBackoffMax : UInt32 := 120000
  /-- The wait for the offline notice before the radio stops. -/
  mqttFlushTimeout : UInt32 := 1000
  blinkOn : UInt32 := 500
  blinkOff : UInt32 := 500
  /-- Erase attempts of a factory reset before the restart comes anyway. -/
  eraseRetryLimit : UInt8 := 3

end DoorControl
