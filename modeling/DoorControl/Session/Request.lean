import DoorControl.Bytes

/-!
Requests to the transport that carries the broker session. Each belongs to a connection generation;
its outcome comes back later as an event with the same generation.
-/

namespace DoorControl

/-- Where and as whom to connect. -/
structure ConnectRequest where
  generation : UInt8 := 0
  host : Bytes := []
  port : UInt16 := 1883
  user : Bytes := []
  pass : Bytes := []
  tls : Bool := false
  clientId : Bytes := []
  /-- The broker itself publishes a retained `offline` here when the connection dies. -/
  willTopic : Bytes := []
deriving DecidableEq

inductive Request
  | connect (c : ConnectRequest)
  | publish (generation : UInt8) (topic payload : Bytes) (retained : Bool)
  | subscribe (generation : UInt8) (topic : Bytes)
  | disconnect (generation : UInt8)
deriving DecidableEq

/-- The connection a request belongs to. -/
def Request.generation : Request → UInt8
  | connect c => c.generation
  | publish g _ _ _ => g
  | subscribe g _ => g
  | disconnect g => g

end DoorControl
