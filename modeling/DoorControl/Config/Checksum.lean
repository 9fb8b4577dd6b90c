import DoorControl.Bytes

/-!
The 32-bit cyclic redundancy check of the reversed polynomial `0xEDB88320`, started from all ones
and complemented at the end.
-/

namespace DoorControl

namespace Checksum

/-- Shifts one bit out and folds the polynomial in when it was set. -/
def shiftBit (r : UInt32) : UInt32 :=
  if r &&& 1 = 1 then (r >>> 1) ^^^ 0xEDB88320 else r >>> 1

/-- Shifts `n` bits out. -/
def shiftBits : Nat → UInt32 → UInt32
  | 0, r => r
  | n + 1, r => shiftBits n (shiftBit r)

/-- Takes one byte in. -/
def step (r : UInt32) (b : UInt8) : UInt32 := shiftBits 8 (r ^^^ b.toUInt32)

/-- The register after a text. -/
def run (r : UInt32) (s : Bytes) : UInt32 := s.foldl step r

end Checksum

/-- The checksum of a text. -/
def crc32 (s : Bytes) : UInt32 := ~~~ Checksum.run 0xFFFFFFFF s

end DoorControl
