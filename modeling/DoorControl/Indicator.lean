import DoorControl.Hardware

/-!
The status light: it holds the pattern asked for and runs its blinking. The light is written only
when the visible colour changes.
-/

namespace DoorControl

structure Indicator where
  intensity : UInt8
  pattern : LightPattern := ⟨.red, false⟩
  lit : Bool := false
  /-- When the pattern was applied or the light last flipped. -/
  phase : Clock := 0
  /-- The colour last written, if any was since the start. -/
  shown : Option LightColor := none

namespace Indicator

open Hardware

/-- Writes a colour to the light; any other than red, green and amber is dark. -/
def write (intensity : UInt8) (c : LightColor) : Program Hardware Unit :=
  if c = .red then light intensity 0 0
  else if c = .green then light 0 intensity 0
  else if c = .amber then light intensity (intensity / 2) 0
  else light 0 0 0

/-- Writes a colour unless it is the one already shown. -/
def display (s : Indicator) (c : LightColor) : Program Hardware Indicator :=
  if s.shown = some c then pure s
  else do
    write s.intensity c
    pure { s with shown := some c }

/-- Starts with steady red. -/
def start (s : Indicator) (now : Clock) : Program Hardware Indicator :=
  { s with pattern := ⟨.red, false⟩, lit := true, phase := now, shown := none }.display .red

/-- Takes up a pattern; nothing happens when it is the one held. -/
def apply (s : Indicator) (p : LightPattern) (now : Clock) : Program Hardware (Bool × Indicator) :=
  if p = s.pattern then pure (false, s)
  else do
    let s ← { s with pattern := p, lit := true, phase := now }.display p.color
    pure (true, s)

/-- How long the present half of the blinking lasts. -/
def span (t : Timing) (s : Indicator) : UInt32 := if s.lit then t.blinkOn else t.blinkOff

/-- Flips a blinking light when its time has come. -/
def update (t : Timing) (s : Indicator) (now : Clock) : Program Hardware Indicator :=
  if !s.pattern.blink then pure s
  else if now - s.phase < s.span t then pure s
  else
    { s with lit := !s.lit, phase := now }.display (if s.lit then .off else s.pattern.color)

end Indicator

end DoorControl
