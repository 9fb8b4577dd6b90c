import DoorControl.Hardware

/-!
The reset button. The time it is held is summed up tick by tick; when it has been held long enough,
one reset is requested for that press.
-/

namespace DoorControl

structure Button where
  /-- How long a press must last. -/
  hold : UInt32 := 5000
  pressing : Bool := false
  elapsed : UInt32 := 0
  /-- The reset of this press was requested. -/
  fired : Bool := false

namespace Button

open Bytes Hardware

/-- A sum that stays at the largest word once it gets there. -/
def addSaturating (a b : UInt32) : UInt32 := if 0xFFFFFFFF - b < a then 0xFFFFFFFF else a + b

def released (b : Button) : Button := { b with pressing := false, elapsed := 0, fired := false }

/-- The button after another stretch of being held. -/
def held (b : Button) (dt : UInt32) : Button :=
  { b with pressing := true, elapsed := addSaturating b.elapsed dt }

/-- One tick. When the queue refuses the request, the next tick tries again. -/
def tick (b : Button) (pressed : Bool) (dt : UInt32) (now : Clock) : Program Hardware Button :=
  if !pressed then pure b.released
  else if b.fired then pure { b with pressing := true }
  else if (b.held dt).elapsed < b.hold then pure (b.held dt)
  else do
    if ← post { kind := .resetRequested, time := now, arg := Event.fromButton } then
      info (ascii "BTN")
        (ascii "held " ++ decimal (b.held dt).elapsed.toNat ++ ascii " ms, factory reset")
      pure { b.held dt with fired := true }
    else
      error (ascii "BTN") (ascii "event queue full")
      pure (b.held dt)

end Button

end DoorControl
