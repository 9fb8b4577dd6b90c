import DoorControl.State

/-!
The state of the device packed into one word, so that it can be read while it is being replaced.
The codes are put side by side without being cut to their width: one that is too large spills into
its neighbours.
-/

namespace DoorControl

/-- What a snapshot is made of. -/
structure SystemState where
  lock : LockState := .locked
  door : DoorState := .unknown
  link : LinkState := .uninitialized
  session : SessionState := .idle
  attempt : UInt8 := 0
  setup : Bool := false
  light : LightPattern := ⟨.red, false⟩

structure Snapshot where
  word : UInt32
deriving DecidableEq

namespace Snapshot

def bit (b : Bool) : UInt32 := if b then 1 else 0

def pack (s : SystemState) : Snapshot where
  word := s.lock.code.toUInt32 |||
    s.door.code.toUInt32 <<< 1 |||
    s.link.code.toUInt32 <<< 3 |||
    s.session.code.toUInt32 <<< 6 |||
    bit s.setup <<< 9 |||
    s.light.color.code.toUInt32 <<< 10 |||
    bit s.light.blink <<< 12 |||
    s.attempt.toUInt32 <<< 16

/-- The `width` bits of the word from a place on. -/
def bits (s : Snapshot) (place width : UInt32) : UInt8 :=
  (s.word >>> place &&& (1 <<< width - 1)).toUInt8

def lock (s : Snapshot) : LockState := ⟨s.bits 0 1⟩
def door (s : Snapshot) : DoorState := ⟨s.bits 1 2⟩
def linkCode (s : Snapshot) : UInt8 := s.bits 3 3
def sessionCode (s : Snapshot) : UInt8 := s.bits 6 3
def setup (s : Snapshot) : Bool := s.bits 9 1 != 0
def color (s : Snapshot) : LightColor := ⟨s.bits 10 2⟩
def blink (s : Snapshot) : Bool := s.bits 12 1 != 0
def attempt (s : Snapshot) : UInt8 := s.bits 16 8

end Snapshot

end DoorControl
