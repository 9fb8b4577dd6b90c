import DoorControl.Config.Record
import DoorControl.Hardware

/-!
The configuration in storage: two slots that take turns. Each save goes to the slot that does not
hold the newest record, so that a save cut short leaves the previous configuration to load.
-/

namespace DoorControl

open Bytes Hardware

/-- Why a configuration was not stored or not erased. -/
inductive StoreError
  | invalidConfig
  | writeFailed
  | eraseFailed
deriving DecidableEq

namespace StoreError

def code : StoreError → UInt8
  | invalidConfig => 1
  | writeFailed => 2
  | eraseFailed => 3

def ofCode? : UInt8 → Option StoreError
  | 1 => some invalidConfig
  | 2 => some writeFailed
  | 3 => some eraseFailed
  | _ => none

def name : StoreError → Bytes
  | invalidConfig => ascii "invalid_config"
  | writeFailed => ascii "write_failed"
  | eraseFailed => ascii "erase_failed"

/-- The name of an outcome, where no error is one too. -/
def nameOf : Option StoreError → Bytes
  | none => ascii "none"
  | some e => e.name

/-- The name that goes with the code of an outcome. -/
def nameOfCode (c : UInt8) : Bytes :=
  if c = 0 then nameOf none else ((ofCode? c).map name).getD (ascii "unknown")

end StoreError

namespace Store

inductive Slot
  | a
  | b
deriving DecidableEq

def Slot.key : Slot → Bytes
  | a => ascii "cfg_a"
  | b => ascii "cfg_b"

def Slot.other : Slot → Slot
  | a => b
  | b => a

def tag : Bytes := ascii "CFG"

/-- Sequence number `x` comes after `y`, counted around 2^32. -/
def newer (x y : UInt32) : Bool := x ≠ y && (x - y).toNat < 0x80000000

/-- What a slot holds: a configuration and its sequence number, if a valid record. -/
abbrev Found := Option (Config × UInt32)

/-- Reads one slot and says on the log why a value in it is no record. -/
def readSlot (s : Slot) : Program Hardware Found := do
  let n ← storedLength s.key
  if n = 0 then pure none
  else if n ≠ Record.size then do
    warn tag (s.key ++ ascii ": bad length " ++ decimal n)
    pure none
  else do
    let value ← storedRead s.key Record.size
    if value.length ≠ Record.size then
      warn tag (s.key ++ ascii ": short read")
      pure none
    else
      match Record.decode? value with
      | some found => pure (some found)
      | none =>
        warn tag (s.key ++ ascii ": rejected record")
        pure none

/-- The slot with the newest record, and that record. On a tie the first slot counts as newest. -/
def newest? : Found → Found → Option (Slot × Config × UInt32)
  | some (a, m), some (b, n) => if newer n m then some (.b, b, n) else some (.a, a, m)
  | some (a, m), none => some (.a, a, m)
  | none, some (b, n) => some (.b, b, n)
  | none, none => none

/-- Where the next record goes, and its sequence number. -/
def next (a b : Found) : Slot × UInt32 :=
  match newest? a b with
  | some (s, _, n) => (s.other, n + 1)
  | none => (.a, 1)

/-- The newest configuration stored. -/
def load : Program Hardware (Option Config) := do
  let a ← readSlot .a
  let b ← readSlot .b
  pure ((newest? a b).map fun r => r.2.1)

/-- Stores a complete configuration and reads it back. -/
def save (c : Config) : Program Hardware (Option StoreError) :=
  if !c.complete then pure (some .invalidConfig)
  else do
    let a ← readSlot .a
    let b ← readSlot .b
    let (slot, seq) := next a b
    let record := Record.encode c seq
    let written ← storedWrite slot.key record
    if written ≠ record.length then
      error tag (ascii "write " ++ slot.key ++ ascii " failed")
      pure (some .writeFailed)
    else
      let check ← storedRead slot.key Record.size
      if check ≠ record then
        error tag (ascii "verify " ++ slot.key ++ ascii " failed")
        pure (some .writeFailed)
      else
        info tag (ascii "saved " ++ slot.key ++ ascii " seq=" ++ decimal seq.toNat)
        pure none

/-- Empties both slots, and makes sure of it. The second is emptied also when the first is not. -/
def erase : Program Hardware (Option StoreError) := do
  let a ← storedRemove Slot.a.key
  let b ← storedRemove Slot.b.key
  let gone ← if !a || !b then pure false
    else do
      if (← storedLength Slot.a.key) ≠ 0 then pure false
      else pure ((← storedLength Slot.b.key) = 0)
  if gone then
    info tag (ascii "erased")
    pure none
  else
    error tag (ascii "erase failed")
    pure (some .eraseFailed)

end Store

end DoorControl
