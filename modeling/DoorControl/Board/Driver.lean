import DoorControl.Board.Transport

/-!
The device's hardware as the board provides it: each call of the device becomes a program over the
calls of the board.
-/

namespace DoorControl

namespace Driver

open Bytes Board

/-! ### Radio -/

/-- The address of the device in setup mode. -/
def setupAddress : Address := ⟨192, 168, 0, 1⟩

def setupMask : Address := ⟨255, 255, 255, 0⟩

def startAccessPoint (ssid pass : Bytes) : Program Board Bool := do
  if ← ask (.radioMode .accessPoint) then
    if ← ask (.configureAccessPoint setupAddress setupAddress setupMask) then
      if ← ask (.openAccessPoint ssid pass) then
        info (ascii "WIFI") (ascii "AP " ++ ssid ++ ascii " at " ++
          (← ask .accessPointAddress).dotted)
        pure true
      else pure false
    else
      error (ascii "WIFI") (ascii "softAPConfig failed")
      pure false
  else pure false

/-- Joins a network once; retries are the business of the link. -/
def startStation (ssid pass : Bytes) : Program Board Bool := do
  if ← ask (.radioMode .station) then
    ask (.autoReconnect false)
    ask (.joinNetwork ssid pass)
    pure true
  else pure false

def stopRadio : Program Board Unit := do
  ask (.leaveNetwork true true)
  let _ ← ask (.radioMode .off)

/-- What the radio's status code says of the link: 3 is connected, 4 and 1 are a refused connection
and a missing network. -/
def radioStatus (code : UInt8) : RadioStatus :=
  if code = 3 then .up else if code = 4 || code = 1 then .failed else .down

/-! ### Storage -/

/-- Opens the storage unless it is open. -/
def openStorage (ns : Bytes) (opened : Bool) : Program Board Bool :=
  if opened then pure true else ask (.openStorage ns false)

def storedLength (opened : Bool) (key : Bytes) : Program Board Nat :=
  if !opened then pure 0
  else do
    if ← ask (.hasKey key) then ask (.valueLength key) else pure 0

def storedRead (opened : Bool) (key : Bytes) (room : Nat) : Program Board Bytes :=
  if !opened then pure [] else ask (.readValue key room)

def storedWrite (opened : Bool) (key value : Bytes) : Program Board Nat :=
  if !opened then pure 0 else ask (.writeValue key value)

def storedRemove (opened : Bool) (key : Bytes) : Program Board Bool :=
  if !opened then pure false
  else do
    if ← ask (.hasKey key) then ask (.removeKey key) else pure true

/-! ### Light and system -/

/-- Pixels that take green, red and blue in this order, at 800 kHz. -/
def pixelKind : Nat := 82

/-- Sets the only pixel of the light up. -/
def newLight (pin : UInt8) : Program Board Unit := ask (.newPixels 1 pin pixelKind)

def startLight : Program Board Unit := do
  ask .startPixels
  ask .clearPixels
  ask .showPixels

def color (r g b : UInt8) : UInt32 := r.toUInt32 <<< 16 ||| g.toUInt32 <<< 8 ||| b.toUInt32

def showLight (r g b : UInt8) : Program Board Unit := do
  ask (.setPixel 0 (color r g b))
  ask .showPixels

def restart : Program Board Unit := do
  ask .serialFlush
  ask .restart

/-- The six low bytes of the hardware's number, the lowest first, as hexadecimal digits. -/
def identity (n : UInt64) : Bytes :=
  [(0 : UInt64), 8, 16, 24, 32, 40].flatMap fun shift => hexPair (n >>> shift).toUInt8

/-- Prints the identity of the hardware into a buffer. -/
def printIdentity (buffer : Bytes) : Program Board Bytes := do
  pure (printInto buffer (identity (← ask .hardwareId)))

/-! ### The device's calls -/

/-- How the board does what the device asks of its hardware, with its storage open or not. -/
def lower (opened : Bool) : (c : Hardware.Call) → Program Board (Hardware.Answer c)
  | .pinOutput pin => ask (.pinMode pin true)
  | .pinInput pin => ask (.pinMode pin false)
  | .pinWrite pin high => ask (.digitalWrite pin high)
  | .pinRead pin => ask (.digitalRead pin)
  | .startAccessPoint ssid pass => startAccessPoint ssid pass
  | .startStation ssid pass => startStation ssid pass
  | .stopRadio => stopRadio
  | .radioStatus => do pure (radioStatus (← ask .stationStatus))
  | .request r => Transport.request r
  | .flush timeout => Transport.flush timeout
  | .light r g b => showLight r g b
  | .storedLength key => storedLength opened key
  | .storedRead key room => storedRead opened key room
  | .storedWrite key value => storedWrite opened key value
  | .storedRemove key => storedRemove opened key
  | .restart => restart
  | .deviceId room => do pure (clip room (identity (← ask .hardwareId)))
  | .post e => postEvent e
  | .offer s => offerSubmission s
  | .take => takeSubmission
  | .log line => ask (.log line)

end Driver

end DoorControl
