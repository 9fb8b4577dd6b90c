import DoorControl.Proofs.Link.Progress
import DoorControl.Proofs.Retries
import DoorControl.Proofs.Session.Progress

/-!
Neither part that attempts gets stuck. After an update, the link and the session have what they
attempt, or are at it, or will be at a time that is ahead.
-/

namespace DoorControl

open Bytes

/-- **No stall**: whatever is done in time to a link and to a session, and whatever the radio and
the transport answer, after each update a station that was not shut down is connected, or connecting
by an attempt that was made less than the timeout ago, or disconnected with its retry ahead, and
after each update over a link a session that is set up and was not shut down is subscribed, or in an
attempt that was made less than the timeout ago, or backed off with its retry ahead. -/
theorem never_stalls (t : Timing)
    (hwifi : 1 ≤ t.wifiBackoffBase ∧ t.wifiBackoffBase ≤ t.wifiBackoffMax ∧
      t.wifiBackoffMax < 0x80000000)
    (hmqtt : 1 ≤ t.mqttBackoffBase ∧ t.mqttBackoffBase ≤ t.mqttBackoffMax ∧
      t.mqttBackoffMax < 0x80000000)
    (hstation : 1 ≤ t.wifiConnectTimeout ∧ t.wifiConnectTimeout < 0x80000000)
    (hsetup : 1 ≤ t.mqttConnectTimeout ∧ t.mqttConnectTimeout < 0x80000000)
    (ops : List (Nat × Link.Operation)) (moves : List (Nat × Session.Move)) :
    Retrier.Watched (fun _ => Link.retrier t) (Link.Unstalled t) ops {} {} 0 ∧
      Retrier.Watched (Session.heeding t) (Session.Unstalled t) moves {} {} 0 :=
  ⟨Link.watched_unstalled hwifi.1 hwifi.2.1 hwifi.2.2 hstation.1 hstation.2 ops,
    Session.watched_unstalled hmqtt.1 hmqtt.2.1 hmqtt.2.2 hsetup.1 hsetup.2 moves⟩

/-- Nothing stalls by the usual times. -/
theorem usual_never_stalls :
    ((1 ≤ ({} : Timing).wifiBackoffBase ∧
        ({} : Timing).wifiBackoffBase ≤ ({} : Timing).wifiBackoffMax ∧
        ({} : Timing).wifiBackoffMax < 0x80000000) ∧
      (1 ≤ ({} : Timing).mqttBackoffBase ∧
        ({} : Timing).mqttBackoffBase ≤ ({} : Timing).mqttBackoffMax ∧
        ({} : Timing).mqttBackoffMax < 0x80000000) ∧
      (1 ≤ ({} : Timing).wifiConnectTimeout ∧ ({} : Timing).wifiConnectTimeout < 0x80000000) ∧
      1 ≤ ({} : Timing).mqttConnectTimeout ∧ ({} : Timing).mqttConnectTimeout < 0x80000000) ∧
    Retrier.Watched (fun _ => Link.retrier {}) (Link.Unstalled {})
      [(0, .start {} 0), (5000, .update 5000)] {} {} 0 ∧
    Retrier.Watched (Session.heeding {}) (Session.Unstalled {})
      [(0, .configure { deviceId := .ofBytes (ascii "front1") }),
        (0, .operate (.update true 0)), (7000, .operate (.update true 7000))] {} {} 0 :=
  ⟨by decide, never_stalls {} (by decide) (by decide) (by decide) (by decide) _ _⟩

/-- A link that is refused when it starts and is updated only once, more than 2^31 later. -/
def Link.lateUpdate : Link × Tally :=
  (Link.retrier {}).refused [(0, .start {} 0), (2 ^ 31 + 5000, .update (0x80000000 + 5000))] {}

/-- A session that is refused, then loses what it was set up with, and is set up again when the time
of its retry is long past. -/
def Session.lateSetUp : Session × Tally :=
  (Session.retrier {}).refused [(0, .configure { deviceId := .ofBytes (ascii "front1") }),
    (0, .operate (.update true 0)), (1, .configure {}),
    (2 ^ 31 - 1, .operate (.update true 0x7fffffff)),
    (2 ^ 31, .configure { deviceId := .ofBytes (ascii "front1") }),
    (2 ^ 31 + 5000, .operate (.update true (0x80000000 + 5000)))] {}

/-- Where updates are heeded less often than every 2^31, a retry that is past is taken for one that
is ahead. -/
theorem stalled_by_late_updates :
    (Link.lateUpdate.1.Runs ∧ ¬ Link.lateUpdate.1.Moving {} Link.lateUpdate.2 0) ∧
    (Session.lateSetUp.1.configured = true ∧ Session.lateSetUp.1.stopped = false ∧
      ¬ Session.lateSetUp.1.Moving {} Session.lateSetUp.2 0) := by
  decide +kernel

end DoorControl
