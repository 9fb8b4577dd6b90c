import DoorControl.Proofs.Program
import DoorControl.Session.Basic

/-!
The life of a broker session, with a journal of it: what was recorded for publishing, and every call
with the answer it got.
-/

namespace DoorControl

open Bytes Program

/-- Something that happened to a session. -/
inductive Entry
  | recorded (l : LockState) (d : DoorState)
  | made (x : Exchange Hardware)

/-- What happened to a session, the newest first. -/
abbrev Journal := List Entry

namespace Journal

/-- Surroundings that answer anything and keep a journal. -/
def surroundings : Surroundings Hardware Journal where
  may c j r j' := j' = .made ⟨c, r⟩ :: j

/-! ### What a journal tells -/

/-- The state recorded last. -/
def recorded (j : Journal) : LockState × DoorState :=
  (j.findSome? fun
    | .recorded l d => some (l, d)
    | .made _ => none).getD (.locked, .unknown)

/-- The code of the session state that an entry reports. -/
def told? : Entry → Option UInt8
  | .made ⟨.post e, _⟩ => if e.kind = .sessionChanged then some e.arg else none
  | _ => none

/-- The code of the session state reported last. -/
def told (j : Journal) : UInt8 := (j.findSome? told?).getD SessionState.idle.code

/-- The payload that an entry publishes on a topic, if the transport takes it. -/
def published? (topic : Bytes) : Entry → Option Bytes
  | .made ⟨.request (.publish _ target payload _), taken⟩ =>
    if target = topic ∧ taken = true then some payload else none
  | _ => none

/-- An entry that asks for a connection. -/
def attempts : Entry → Bool
  | .made ⟨.request (.connect _), _⟩ => true
  | _ => false

/-- The last payload published on a topic since a connection was asked for. -/
def published (topic : Bytes) : Journal → Option Bytes
  | [] => none
  | x :: past =>
    if attempts x then none
    else (published? topic x).or (published topic past)

/-- Whatever was published on a topic was the state recorded last, with the commands subscribed
to. -/
def Faithful (topic : Bytes) : Journal → Prop
  | [] => True
  | x :: past =>
    (∀ payload ∈ published? topic x,
      payload = Document.state (recorded past).1 (recorded past).2 ∧
        told past = SessionState.subscribed.code) ∧
    Faithful topic past

end Journal

namespace Session

/-- What the device does to its session. -/
inductive Operation
  | update (linkUp : Bool) (now : Clock)
  | handle (e : Event) (now : Clock)
  | publish (l : LockState) (d : DoorState)
  | shutdown

/-- The session after one operation. -/
def perform (t : Timing) (s : Session) : Operation → Program Hardware Session
  | .update linkUp now => s.update t linkUp now
  | .handle e now => s.handle t e now
  | .publish l d => s.publish l d
  | .shutdown => s.shutdown t

/-- What the journal is told of an operation before it begins. -/
def Operation.note : Operation → Journal → Journal
  | .publish l d, j => .recorded l d :: j
  | _, j => j

/-- Whatever the surroundings answer, `post` holds after the operations. -/
def Always (t : Timing) (post : Session → Journal → Prop) :
    List Operation → Session → Journal → Prop
  | [], s, j => post s j
  | op :: rest, s, j => (s.perform t op).Ensures Journal.surroundings (Always t post rest) (op.note j)

lemma always_of_keep {t : Timing} {keep post : Session → Journal → Prop}
    (hkeep : ∀ s j op, keep s j → (s.perform t op).Ensures Journal.surroundings keep (op.note j))
    (hpost : ∀ s j, keep s j → post s j) (ops : List Operation) {s : Session} {j : Journal}
    (h : keep s j) : Always t post ops s j := by
  induction ops generalizing s j with
  | nil => exact hpost s j h
  | cons op rest ih => exact (hkeep s j op h).mono fun s' j' h' => ih h'

end Session

/-! ### Entries that change nothing -/

namespace Journal

/-- The calls that publish nothing on a topic, ask for no connection and report no session state. -/
def Neutral (topic : Bytes) : Hardware.Call → Prop
  | .request (.publish _ target _ _) => target ≠ topic
  | .request (.connect _) => False
  | .post e => e.kind ≠ .sessionChanged
  | _ => True

variable {topic : Bytes} {c : Hardware.Call} (r : Hardware.Answer c) (j : Journal)

lemma told_neutral (h : Neutral topic c) : told (.made ⟨c, r⟩ :: j) = told j := by
  have hx : told? (.made ⟨c, r⟩) = none := by
    cases c with
    | post e => exact if_neg h
    | _ => rfl
  rw [told, List.findSome?_cons, hx, told]

lemma published?_neutral (h : Neutral topic c) : published? topic (.made ⟨c, r⟩) = none := by
  cases c with
  | request q =>
    cases q with
    | publish g target payload retained => exact if_neg fun ht => h ht.1
    | _ => rfl
  | _ => rfl

lemma published_neutral (h : Neutral topic c) :
    published topic (.made ⟨c, r⟩ :: j) = published topic j := by
  have hx : attempts (.made ⟨c, r⟩) = false := by
    cases c with
    | request q =>
      cases q with
      | connect => exact h.elim
      | _ => rfl
    | _ => rfl
  simp [published, hx, published?_neutral r h]

end Journal

end DoorControl
