import DoorControl.Bytes

/-!
Cutting what comes in on the console into lines. A line ends at a line feed; carriage returns are
dropped. A line that is longer than the buffer is reported as such and its bytes are lost.
-/

namespace DoorControl

namespace Console

/-- What there is of the line that has not ended. -/
structure Pending where
  kept : Bytes := []
  overflow : Bool := false

/-- A line that has ended. -/
inductive Ended
  | line (s : Bytes)
  | tooLong
deriving DecidableEq

/-- The bytes of a line that are kept. -/
def lineLength : Nat := 255

/-- Takes one byte in. A line that ends empty is passed over. -/
def Pending.take (p : Pending) (b : UInt8) : Option Ended × Pending :=
  if b = 13 then (none, p)
  else if b ≠ 10 then
    if p.kept.length < lineLength then (none, { p with kept := p.kept ++ [b] })
    else (none, { p with overflow := true })
  else if p.overflow then (some .tooLong, {})
  else if p.kept = [] then (none, {})
  else (some (.line p.kept), {})

/-- Takes a text in, and gives the lines that ended in it. -/
def Pending.takeAll (p : Pending) : Bytes → List Ended × Pending
  | [] => ([], p)
  | b :: rest =>
    let r := (p.take b).2.takeAll rest
    ((p.take b).1.toList ++ r.1, r.2)

end Console

end DoorControl
