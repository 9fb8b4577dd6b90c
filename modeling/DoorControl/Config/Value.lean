import DoorControl.Bytes

/-!
The values of the configuration fields that are not texts: switches and port numbers.
-/

namespace DoorControl

open Bytes

/-- Reads `1`, `true` or `on`, and `0`, `false` or `off`, in any letter case. -/
def switch? (s : Bytes) : Option Bool :=
  if [ascii "1", ascii "true", ascii "on"].any (matchesWord s) then some true
  else if [ascii "0", ascii "false", ascii "off"].any (matchesWord s) then some false
  else none

namespace Numeral

def isDigit (b : UInt8) : Bool := 48 ≤ b && b ≤ 57

/-- The number that a run of decimal digits stands for. -/
def ofDigits (ds : Bytes) : Nat := ds.foldl (fun n d => 10 * n + (d.toNat - 48)) 0

/-- One optional sign, and whether it is a minus. -/
def sign : Bytes → Bool × Bytes
  | b :: rest => if b = 45 then (true, rest) else if b = 43 then (false, rest) else (false, b :: rest)
  | [] => (false, [])

/-- A magnitude as a 64-bit word: one too large for the word becomes the largest word, with either
sign, and a minus negates within the word. -/
def word (negative : Bool) (n : Nat) : Nat :=
  if UInt64.size ≤ n then UInt64.size - 1
  else if negative then (UInt64.size - n) % UInt64.size else n

/-- Reads a text that is, to its end, blanks, an optional sign and decimal digits, as a 64-bit
word. -/
def unsigned? (s : Bytes) : Option Nat :=
  let r := sign (skipBlanks s)
  if r.2 ≠ [] && r.2.all isDigit then some (word r.1 (ofDigits r.2)) else none

end Numeral

/-- Reads a port number, which is neither zero nor more than 65535. -/
def port? (s : Bytes) : Option UInt16 :=
  match Numeral.unsigned? s with
  | some n => if n = 0 || 65535 < n then none else some n.toUInt16
  | none => none

end DoorControl
