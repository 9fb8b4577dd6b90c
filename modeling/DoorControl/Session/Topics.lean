import DoorControl.Bytes

/-!
The topics of a device. Each has room for 64 bytes with its closing zero.
-/

namespace DoorControl

open Bytes

structure Topics where
  discovery : Bytes := []
  state : Bytes := []
  availability : Bytes := []
  command : Bytes := []
deriving DecidableEq

namespace Topics

def room : Nat := 64

def discoveryOf (id : Bytes) : Bytes := ascii "homeassistant/device/" ++ id ++ ascii "/config"
def stateOf (id : Bytes) : Bytes := ascii "doorctl/" ++ id ++ ascii "/state"
def availabilityOf (id : Bytes) : Bytes := ascii "doorctl/" ++ id ++ ascii "/availability"
def commandOf (id : Bytes) : Bytes := ascii "doorctl/" ++ id ++ ascii "/set"

/-- Names the topics of a device in turn, up to the first that does not fit: that one is cut and
the rest stay as they were. Tells whether all fit. A device without an id has no topics. -/
def build (t : Topics) (id : Bytes) : Bool × Topics :=
  if id = [] then (false, t)
  else
    let t := { t with discovery := clip room (discoveryOf id) }
    if !fits room (discoveryOf id) then (false, t)
    else
      let t := { t with state := clip room (stateOf id) }
      if !fits room (stateOf id) then (false, t)
      else
        let t := { t with availability := clip room (availabilityOf id) }
        if !fits room (availabilityOf id) then (false, t)
        else
          let t := { t with command := clip room (commandOf id) }
          (fits room (commandOf id), t)

end Topics

end DoorControl
