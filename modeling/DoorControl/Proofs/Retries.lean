import DoorControl.Proofs.Link.Schedule
import DoorControl.Proofs.Session.Schedule

/-!
Both parts that attempt retry on one schedule: the link and the session. A retry that is missed was
given up by then, or its time went by unseen for too long.
-/

namespace DoorControl

open Bytes Program

/-- **Retries are on schedule**: whatever is done in time to a link and to a session, and whatever
the radio and the transport answer, the retry after the `k`-th failure in a row is due as long after
it as the delay for `k - 1`, and the next attempt is made in the first update at that time or later:
no operation before it attempts anything, and that update does unless it comes after a shutdown. A
session that falls idle when its link is gone attempts in the first update over a link. -/
theorem retries_on_schedule (t : Timing) (hbase : t.wifiBackoffBase ≤ t.wifiBackoffMax)
    (hwifi : t.wifiBackoffMax < 0x80000000) (hmqtt : t.mqttBackoffMax < 0x80000000)
    (ops : List (Nat × Link.Operation)) (moves : List (Nat × Session.Move)) :
    (Link.retrier t).Throughout (Link.Punctual t) ops {} {} ∧
      (Session.retrier t).Throughout (Session.Punctual t) moves {} {} :=
  ⟨Link.throughout_punctual hbase hwifi ops, Session.throughout_punctual hmqtt moves⟩

/-- The usual delays are in order. -/
theorem usual_retries_on_schedule :
    (({} : Timing).wifiBackoffBase ≤ ({} : Timing).wifiBackoffMax ∧
      ({} : Timing).wifiBackoffMax < 0x80000000 ∧ ({} : Timing).mqttBackoffMax < 0x80000000) ∧
    (Link.retrier {}).Throughout (Link.Punctual {}) [(0, .start {} 0), (5000, .update 5000)] {} {} ∧
    (Session.retrier {}).Throughout (Session.Punctual {})
      [(0, .configure { deviceId := .ofBytes (ascii "front1") }),
        (0, .operate (.update true 0)), (7000, .operate (.update true 7000))] {} {} :=
  ⟨by decide, retries_on_schedule {} (by decide) (by decide) (by decide) _ _⟩

/-! ### Retries that are missed -/

/-- What hardware answers that takes nothing and has nothing. -/
def Hardware.refusal : (c : Hardware.Call) → Hardware.Answer c
  | .pinRead _ | .startAccessPoint _ _ | .startStation _ _ | .request _ | .flush _
  | .storedRemove _ | .post _ | .offer _ => false
  | .radioStatus => .down
  | .storedLength _ | .storedWrite _ _ => (0 : Nat)
  | .storedRead _ _ | .deviceId _ => ([] : Bytes)
  | .take => none
  | .pinOutput _ | .pinInput _ | .pinWrite _ _ | .stopRadio | .light _ _ _ | .restart | .log _ => ()

/-- What is left after operations, and the tally, on hardware that takes nothing. -/
def Retrier.refused {S Op : Type} (m : Retrier S Op) (ops : List (Nat × Op)) (s : S) : S × Tally :=
  ops.foldl (fun x op => (m.perform x.1 op.2).run
    ⟨fun c o => (Hardware.refusal c, (m.sign c).elim o o.see)⟩ (m.begin x.2 op.1 op.2)) (s, {})

/-- An attempt was made and failed, and another is to come at a time. -/
def Tally.Awaits (o : Tally) (base cap : UInt32) (time : Nat) : Prop :=
  o.sign = some .failed ∧ o.attempts = 1 ∧ o.due base cap = time

instance (o : Tally) (base cap : UInt32) (time : Nat) : Decidable (o.Awaits base cap time) :=
  inferInstanceAs (Decidable (_ ∧ _ ∧ _))

/-- A link that was started, and then something else. -/
def Link.afterStart (ops : List (Nat × Link.Operation)) : Tally :=
  ((Link.retrier {}).refused ((0, .start {} 0) :: ops) {}).2

/-- A session that was set up and updated, and then something else. -/
def Session.afterUpdate (moves : List (Nat × Session.Move)) : Tally :=
  ((Session.retrier {}).refused ((0, .configure { deviceId := .ofBytes (ascii "front1") }) ::
    (0, .operate (.update true 0)) :: moves) {}).2

/-- No retry is made at its time after a shutdown, or in a first update that comes 2^31 late, or once
a configuration was refused. -/
theorem retry_missed :
    ((Link.afterStart [(1, .shutdown)]).Awaits 5000 60000 5000 ∧
      (Link.afterStart [(1, .shutdown), (5000, .update 5000)]).attempts = 1) ∧
    ((Link.afterStart []).Awaits 5000 60000 5000 ∧
      (Link.afterStart [(5000 + 2 ^ 31, .update (5000 + 0x80000000))]).attempts = 1) ∧
    ((Session.afterUpdate [(1, .configure {})]).Awaits 5000 120000 5000 ∧
      (Session.afterUpdate [(1, .configure {}), (5000, .operate (.update true 5000))]).attempts =
        1) := by
  decide +kernel

end DoorControl
