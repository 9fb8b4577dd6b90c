import DoorControl.Config.Basic
import DoorControl.Config.Checksum

/-!
The stored form of a configuration: a record of fixed size, numbers with their low byte first. A
header with a magic number, a version, the payload's length and a sequence number comes before the
fields, and a checksum of all of it behind them.
-/

namespace DoorControl

open Bytes

namespace Record

def magic : UInt32 := 0x44434647
def version : UInt16 := 1
def headerSize : Nat := 12
def payloadSize : Nat := 404
def bodySize : Nat := headerSize + payloadSize

/-- The size of a whole record, with the checksum. -/
def size : Nat := bodySize + 4

/-! ### Writing -/

def word16 (n : UInt16) : Bytes := [n.toUInt8, (n >>> 8).toUInt8]

def word32 (n : UInt32) : Bytes :=
  [n.toUInt8, (n >>> 8).toUInt8, (n >>> 16).toUInt8, (n >>> 24).toUInt8]

def flag (b : Bool) : Bytes := [if b then 1 else 0]

def header (seq : UInt32) : Bytes :=
  word32 magic ++ word16 version ++ word16 payloadSize.toUInt16 ++ word32 seq

/-- The fields, each text in normal form. -/
def payload (c : Config) : Bytes :=
  c.wifiSsid.normal.bytes ++ c.wifiPass.normal.bytes ++ c.mqttHost.normal.bytes ++
    word16 c.mqttPort ++ c.mqttUser.normal.bytes ++ c.mqttPass.normal.bytes ++
    flag c.mqttTls ++ flag c.lockActiveHigh ++
    c.deviceId.normal.bytes ++ c.deviceName.normal.bytes

def body (c : Config) (seq : UInt32) : Bytes := header seq ++ payload c

/-- The record of a configuration under a sequence number. -/
def encode (c : Config) (seq : UInt32) : Bytes := body c seq ++ word32 (crc32 (body c seq))

/-! ### Reading -/

/-- Reads something off the front of a text and leaves the rest. -/
abbrev Reader := StateT Bytes Option

def readWord16 : Reader UInt16 := fun s =>
  match s with
  | a :: b :: rest => some (a.toUInt16 ||| b.toUInt16 <<< 8, rest)
  | _ => none

def readWord32 : Reader UInt32 := fun s =>
  match s with
  | a :: b :: c :: d :: rest =>
    some (a.toUInt32 ||| b.toUInt32 <<< 8 ||| c.toUInt32 <<< 16 ||| d.toUInt32 <<< 24, rest)
  | _ => none

/-- Reads a flag, which is 0 or 1. -/
def readFlag : Reader Bool := fun s =>
  match s with
  | b :: rest => if b = 0 then some (false, rest) else if b = 1 then some (true, rest) else none
  | [] => none

/-- Reads a text with all its bytes; it has to be terminated. -/
def readText (w : Nat) : Reader (Text w) := fun s =>
  if h : (s.take w).length = w then
    if (s.take w).contains 0 then some (⟨s.take w, h⟩, s.drop w) else none
  else none

/-- Reads the header and gives its sequence number. -/
def readHeader : Reader UInt32 := do
  guard ((← readWord32) = magic)
  guard ((← readWord16) = version)
  guard ((← readWord16) = payloadSize.toUInt16)
  readWord32

def readPayload : Reader Config := do
  let wifiSsid ← readText 64
  let wifiPass ← readText 64
  let mqttHost ← readText 64
  let mqttPort ← readWord16
  let mqttUser ← readText 64
  let mqttPass ← readText 64
  let mqttTls ← readFlag
  let lockActiveHigh ← readFlag
  let deviceId ← readText 16
  let deviceName ← readText 64
  pure { wifiSsid, wifiPass, mqttHost, mqttPort, mqttUser, mqttPass, mqttTls, deviceId, deviceName,
         lockActiveHigh }

/-- Reads a record: its checksum holds, its header is the one of this version, and its
configuration is complete. -/
def decode? (s : Bytes) : Option (Config × UInt32) := do
  guard (s.length = size)
  guard (word32 (crc32 (s.take bodySize)) = s.drop bodySize)
  let (seq, fields) ← readHeader s
  let (c, _) ← readPayload fields
  guard c.complete
  pure (c, seq)

/-- Reads a record over a configuration and a sequence number that are held, and says whether it is
one. What is no record leaves both as they are. -/
def decodeOver (held : Config × UInt32) (s : Bytes) : Bool × Config × UInt32 :=
  match decode? s with
  | some found => (true, found)
  | none => (false, held)

end Record

end DoorControl
