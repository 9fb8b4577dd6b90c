import DoorControl.Contact

/-!
The strike that locks the door, together with the contact of that door.
-/

namespace DoorControl

structure Strike where
  pin : UInt8
  contact : Contact
  /-- A high level on the pin locks; otherwise a low level does. -/
  activeHigh : Bool := false
  lock : LockState := .locked

namespace Strike

open Hardware

/-- The pin level that puts the strike into a state. -/
def level (activeHigh : Bool) (l : LockState) : Bool :=
  if l = .locked then activeHigh else !activeHigh

def drive (s : Strike) (l : LockState) : Program Hardware Strike := do
  pinWrite s.pin (level s.activeHigh l)
  pure { s with lock := l }

/-- Locks, without an event, and starts to watch the contact. -/
def start (s : Strike) (activeHigh : Bool) (now : Clock) : Program Hardware Strike := do
  pinOutput s.pin
  let s ← { s with activeHigh := activeHigh }.drive .locked
  let contact ← s.contact.start now
  pure { s with contact := contact }

/-- Drives the strike and reports it, also when nothing changes. -/
def set (s : Strike) (l : LockState) (now : Clock) : Program Hardware Strike := do
  let s ← s.drive l
  postOrWarn (ascii "LOCK") { kind := .lockChanged, time := now, arg := l.code }
  pure s

/-- The door as the contact last believed it. -/
def door (s : Strike) : DoorState := s.contact.stable

/-- Samples the contact and reports each change it believes. -/
def sample (s : Strike) (now : Clock) : Program Hardware Strike := do
  let (report, contact) ← s.contact.poll now
  match report with
  | none => pure { s with contact := contact }
  | some d =>
    postOrWarn (ascii "REED") { kind := .doorChanged, time := now, arg := d.code }
    pure { s with contact := contact }

end Strike

end DoorControl
