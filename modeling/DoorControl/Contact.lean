import DoorControl.Hardware

/-!
The door contact. Its level must hold for the debounce time before it is believed; until the first
level has, the door is unknown.
-/

namespace DoorControl

structure Contact where
  pin : UInt8
  /-- A low level means closed; otherwise a high level does. -/
  closedIsLow : Bool := true
  debounce : UInt32 := 50
  /-- The door as last believed. -/
  stable : DoorState := .unknown
  /-- The last level read, as closed or not. -/
  raw : Bool := false
  /-- When that level was first read. -/
  since : Clock := 0

namespace Contact

open Hardware

/-- Reads the level: closed or not. -/
def readClosed (c : Contact) : Program Hardware Bool := do
  let high ← pinRead c.pin
  pure (if c.closedIsLow then !high else high)

/-- Starts to watch: nothing is believed yet. -/
def start (c : Contact) (now : Clock) : Program Hardware Contact := do
  pinInput c.pin
  let raw ← c.readClosed
  pure { c with stable := .unknown, raw := raw, since := now }

/-- Takes a reading in: a change of level starts the debounce time anew. -/
def noted (c : Contact) (raw : Bool) (now : Clock) : Contact :=
  if raw = c.raw then c else { c with raw := raw, since := now }

/-- What the last level says of the door. -/
def reading (c : Contact) : DoorState := if c.raw then .closed else .opened

/-- The report that is due: a level held for the debounce time that is not yet believed. -/
def due (c : Contact) (now : Clock) : Option DoorState :=
  if now - c.since < c.debounce then none
  else if c.stable = c.reading then none
  else some c.reading

/-- One sample, with the report it gives rise to. -/
def poll (c : Contact) (now : Clock) : Program Hardware (Option DoorState × Contact) := do
  let raw ← c.readClosed
  let c := c.noted raw now
  match c.due now with
  | none => pure (none, c)
  | some d => pure (some d, { c with stable := d })

end Contact

end DoorControl
