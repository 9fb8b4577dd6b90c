import DoorControl.Bytes

/-!
Log lines. A line names the part that speaks and, when it is more than information, how serious it
is. It is printed into a fixed buffer and cut there.
-/

namespace DoorControl

open Bytes

namespace Log

inductive Level
  /-- Debug lines are not printed. -/
  | debug
  | info
  | warning
  | error
deriving DecidableEq

/-- The room for a line, its closing zero included. -/
def lineRoom : Nat := 160

def Level.label : Level → Bytes
  | .debug => []
  | .info => []
  | .warning => ascii "WARN "
  | .error => ascii "ERROR "

/-- One message and where it comes from. -/
structure Entry where
  level : Level
  tag : Option Bytes
  message : Bytes

/-- The printed form, `[TAG] ` before the message; a missing tag is shown as `?`. -/
def Entry.line (e : Entry) : Bytes :=
  clip lineRoom
    (ascii "[" ++ e.tag.getD (ascii "?") ++ ascii "] " ++ e.level.label ++ e.message)

/-- The lines a sink receives; without a sink there are none. -/
def printed (sink : Bool) (es : List Entry) : List Bytes :=
  if sink then (es.filter (·.level ≠ .debug)).map Entry.line else []

end Log

end DoorControl
