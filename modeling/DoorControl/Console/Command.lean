import DoorControl.Console.Fields
import DoorControl.Device

/-!
The command lines of the console, and the one-line replies to them.
-/

namespace DoorControl

open Bytes Hardware

/-- What a line asks for. -/
inductive Command
  | setLock (l : LockState)
  | status
  | reset
  | config (fields : Bytes)
  | unknown (word : Bytes)

/-- How a line is replied to. -/
inductive Reply
  | busy
  | lockSet (l : LockState)
  | status (s : Snapshot)
  | resetAccepted
  | configRejected (e : FieldError)
  | configAccepted
  | unknownCommand (word : Bytes)

namespace Command

/-- The bytes of a command word that are looked at. -/
def wordLength : Nat := 15

def isWordByte (b : UInt8) : Bool := !isBlank b

/-- Reads a line: its first word, cut to the length looked at, and what comes behind it. -/
def ofLine (line : Bytes) : Command :=
  let word := ((skipBlanks line).takeWhile isWordByte).take wordLength
  if matchesWord word (ascii "lock") then setLock .locked
  else if matchesWord word (ascii "unlock") then setLock .unlocked
  else if matchesWord word (ascii "status") then status
  else if matchesWord word (ascii "reset") then reset
  else if matchesWord word (ascii "config") then
    config (skipBlanks ((skipBlanks line).dropWhile isWordByte))
  else unknown word

/-- Carries a command out: it posts an event, or reads the snapshot. -/
def run (d : Device) (now : Clock) : Command → Program Hardware Reply
  | setLock l => do
    if ← Device.requestLock l now then pure (.lockSet l) else pure .busy
  | status => pure (.status d.snapshot)
  | reset => do
    if ← Device.requestReset now then pure .resetAccepted else pure .busy
  | config fields =>
    match Fields.read fields with
    | (some e, _) => pure (.configRejected e)
    | (none, s) => do
      if ← Device.submit s now then pure .configAccepted else pure .busy
  | unknown word => pure (.unknownCommand word)

end Command

/-- The snapshot as one line. -/
def Snapshot.describe (s : Snapshot) : Bytes :=
  ascii "lock=" ++ s.lock.name ++ ascii " door=" ++ s.door.name ++
    ascii " wifi=" ++ LinkState.nameOfCode s.linkCode ++
    ascii " mqtt=" ++ SessionState.nameOfCode s.sessionCode ++
    ascii " attempt=" ++ decimal s.attempt.toNat ++
    ascii " led=" ++ s.color.name ++ (if s.blink then ascii "/flash" else [])

namespace Reply

/-- The line was accepted. -/
def accepted : Reply → Bool
  | busy => false
  | lockSet _ => true
  | status _ => true
  | resetAccepted => true
  | configRejected _ => false
  | configAccepted => true
  | unknownCommand _ => false

/-- The room for the reason why fields were rejected, its closing zero included. -/
def reasonRoom : Nat := 48

def text : Reply → Bytes
  | busy => ascii "busy"
  | lockSet l => ascii "ok " ++ l.name
  | status s => s.describe
  | resetAccepted => ascii "ok factory reset"
  | configRejected e => ascii "error " ++ clip reasonRoom e.message
  | configAccepted => ascii "ok config submitted"
  | unknownCommand word => ascii "unknown command '" ++ word ++ ascii "'"

end Reply

/-- Carries a console line out. -/
def Device.command (d : Device) (line : Bytes) (now : Clock) : Program Hardware Reply :=
  (Command.ofLine line).run d now

end DoorControl
