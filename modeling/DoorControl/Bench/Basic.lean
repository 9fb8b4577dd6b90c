import DoorControl.Bench.Storage
import DoorControl.Config.Record
import DoorControl.Hardware

/-!
A bench to run the device on: hardware whose answers can be set, and a record of what was asked of
it.
-/

namespace DoorControl

/-- The faults that the storage still has ahead of it, each used up by one access. -/
structure StorageFaults where
  /-- Reads that copy nothing. -/
  reads : Nat := 0
  /-- Writes that store nothing. -/
  writes : Nat := 0
  /-- Writes that store the first half and claim success. -/
  torn : Nat := 0
  /-- Removals that fail. -/
  removes : Nat := 0
  /-- Removals that claim success and do nothing. -/
  ignored : Nat := 0

structure Bench where
  now : Clock := 0
  /-- The pins that are not high, or were set once. -/
  pins : List (UInt8 × Bool) := []
  radio : RadioStatus := .down
  refuseAccessPoint : Bool := false
  refuseStation : Bool := false
  /-- How many more requests are accepted; below zero there is no limit. -/
  requestsLeft : Int := -1
  flushes : Bool := true
  storage : Storage := {}
  faults : StorageFaults := {}
  deviceId : Bytes := ascii "a1b2c3d4e5f6"
  /-- The event queue, the oldest first. -/
  queue : List Event := []
  capacity : Nat := 64
  mailboxOpen : Bool := true
  mailbox : Option Submission := none

namespace Bench

open Bytes

def pin (b : Bench) (p : UInt8) : Bool := (b.pins.lookup p).getD true

def setPin (b : Bench) (p : UInt8) (high : Bool) : Bench :=
  { b with pins := (p, high) :: b.pins.filter (·.1 != p) }

/-- Whether the transport takes a request, and what it takes afterwards. -/
def acceptRequest (b : Bench) : Bool × Bench :=
  if b.requestsLeft = 0 then (false, b)
  else if b.requestsLeft < 0 then (true, b)
  else (true, { b with requestsLeft := b.requestsLeft - 1 })

def read (b : Bench) (key : Bytes) (room : Nat) : Bytes × Bench :=
  if b.faults.reads ≠ 0 then ([], { b with faults.reads := b.faults.reads - 1 })
  else ((b.storage.get key).take room, b)

/-- What a torn write leaves: the new length, the first half new, the rest as it was. -/
def torn (old value : Bytes) : Bytes :=
  value.take (value.length / 2) ++
    ((old ++ List.replicate value.length 0).take value.length).drop (value.length / 2)

def write (b : Bench) (key value : Bytes) : Nat × Bench :=
  if b.faults.writes ≠ 0 then (0, { b with faults.writes := b.faults.writes - 1 })
  else if b.faults.torn ≠ 0 then
    (value.length, { b with
      faults.torn := b.faults.torn - 1
      storage := b.storage.set key (torn (b.storage.get key) value) })
  else (value.length, { b with storage := b.storage.set key value })

def remove (b : Bench) (key : Bytes) : Bool × Bench :=
  if b.faults.removes ≠ 0 then (false, { b with faults.removes := b.faults.removes - 1 })
  else if b.faults.ignored ≠ 0 then (true, { b with faults.ignored := b.faults.ignored - 1 })
  else (true, { b with storage := b.storage.erase key })

/-- Puts an event into the queue unless it is full. -/
def post (b : Bench) (e : Event) : Bool × Bench :=
  if b.queue.length < b.capacity then (true, { b with queue := b.queue ++ [e] }) else (false, b)

def offer (b : Bench) (s : Submission) : Bool × Bench :=
  if b.mailboxOpen then (true, { b with mailbox := some s }) else (false, b)

/-- How the bench answers a call. -/
def respond : (c : Hardware.Call) → Bench → Hardware.Answer c × Bench
  | .pinOutput _, b => ((), b)
  | .pinInput _, b => ((), b)
  | .pinWrite p high, b => ((), b.setPin p high)
  | .pinRead p, b => (b.pin p, b)
  | .startAccessPoint _ _, b => (!b.refuseAccessPoint, b)
  | .startStation _ _, b => (!b.refuseStation, b)
  | .stopRadio, b => ((), { b with radio := .down })
  | .radioStatus, b => (b.radio, b)
  | .request _, b => b.acceptRequest
  | .flush _, b => (b.flushes, b)
  | .light _ _ _, b => ((), b)
  | .storedLength key, b => ((b.storage.get key).length, b)
  | .storedRead key room, b => b.read key room
  | .storedWrite key value, b => b.write key value
  | .storedRemove key, b => b.remove key
  | .restart, b => ((), b)
  | .deviceId room, b => (clip room b.deviceId, b)
  | .post e, b => b.post e
  | .offer s, b => b.offer s
  | .take, b => (b.mailbox, { b with mailbox := none })
  | .log _, b => ((), b)

def environment : Environment Hardware Bench := ⟨respond⟩

/-! ### Settings -/

/-- A change to the bench from outside. -/
inductive Setting
  | pin (p : UInt8) (high : Bool)
  | radio (status : Option RadioStatus) (refuseAccessPoint refuseStation : Option Bool)
  | transport (accept : Option Int) (flushes : Option Bool)
  | queue (capacity : Option Nat) (clear : Bool)
  | mailbox (accept : Bool)
  /-- The faults of reads, writes, torn writes, failed and ignored removals. -/
  | faults (reads writes torn removes ignored : Option Nat)
  | store (key value : Bytes)
  | flip (key : Bytes) (place : Nat) (mask : UInt8)
  | storeConfig (key : Bytes) (seq : UInt32) (c : Config)
  | unstore (key : Bytes)

def apply (b : Bench) : Setting → Bench
  | .pin p high => b.setPin p high
  | .radio status ap station => { b with
      radio := status.getD b.radio
      refuseAccessPoint := ap.getD b.refuseAccessPoint
      refuseStation := station.getD b.refuseStation }
  | .transport accept flushes => { b with
      requestsLeft := accept.getD b.requestsLeft
      flushes := flushes.getD b.flushes }
  | .queue capacity clear => { b with
      capacity := capacity.getD b.capacity
      queue := if clear then [] else b.queue }
  | .mailbox accept => { b with mailboxOpen := accept }
  | .faults reads writes torn removes ignored => { b with faults := {
      reads := reads.getD b.faults.reads
      writes := writes.getD b.faults.writes
      torn := torn.getD b.faults.torn
      removes := removes.getD b.faults.removes
      ignored := ignored.getD b.faults.ignored } }
  | .store key value => { b with storage := b.storage.set key value }
  | .flip key place mask => { b with storage := b.storage.flip key place mask }
  | .storeConfig key seq c => { b with storage := b.storage.set key (Record.encode c seq) }
  | .unstore key => { b with storage := b.storage.erase key }

/-- Runs a program on the bench, with what it asked for in order. -/
def perform {α : Type} (b : Bench) (p : Program Hardware α) : α × Bench × List (Exchange Hardware) :=
  let r := p.run environment.recorded (b, [])
  (r.1, r.2.1, r.2.2.reverse)

end Bench

end DoorControl
