import DoorControl.Proofs.Board.Station
import DoorControl.Proofs.Device.Commands
import DoorControl.Proofs.Words

/-!
The way of a message from the broker to a lock command. The transport's task copies its bytes into
an event, where the session reads them as a text, which ends at its first zero.
-/

namespace DoorControl

open Bytes Program

namespace Inbox

/-- There is room for one more event. -/
def Room (b : Inbox) : Prop := b.events.length < b.capacity

/-- The queue with one more event. -/
def add (b : Inbox) (e : Event) : Inbox := { b with events := b.events ++ [e] }

/-- Surroundings in which the event queue was created. -/
def created : Surroundings Board Inbox where
  may
    | .queueExists .events, b, there, b' => there = true ∧ b' = b
    | c, b, r, b' => surroundings.may c b r b'

variable {b b' : Inbox} {e e' : Event}

lemma post_room (h : b.Room) (e : Event) : b.post e = (true, b.add e) := if_pos h

lemma add_inj : b.add e = b.add e' ↔ e = e' := by
  simp [add]

lemma add_ne (b : Inbox) (e : Event) : b.add e ≠ b := fun h => by
  have hlength := congrArg (·.events.length) h
  simp [add] at hlength

lemma sendEvent_ensures (e : Event) (b : Inbox) :
    (Board.sendEvent e).Ensures created (fun sent b' => (sent, b') = b.post e) b := by
  rintro interrupt _ rfl
  cases interrupt with
  | true =>
    rintro ⟨sent, woken⟩ b' hsent
    cases woken with
    | true =>
      rintro _ _ rfl
      exact hsent
    | false => exact hsent
  | false => exact fun sent b' hsent => hsent

lemma postEvent_ensures (e : Event) (b : Inbox) :
    (Board.postEvent e).Ensures created (fun ok b' => (ok, b') = b.post e) b := by
  rintro _ _ ⟨rfl, rfl⟩
  refine (sendEvent_ensures e _).bind fun sent b' hsent => ?_
  cases sent with
  | true => exact hsent
  | false =>
    rintro _ _ rfl
    exact hsent

end Inbox

/-- The event that relays a command of the broker. -/
def LockState.relay (l : LockState) (now : Clock) : Event :=
  { kind := .lockCommand, time := now, arg := l.code }

lemma LockState.relay_inj {l l' : LockState} {now : Clock} :
    l.relay now = l'.relay now ↔ l = l' := by
  cases l
  cases l'
  simp [relay]

namespace Session

open Inbox

variable {s : Session} {now : Clock} {payload : Bytes} {b b' : Inbox}

/-- What is posted for a payload: the command that it asks for up to its first zero, or nothing. -/
structure Relayed (payload : Bytes) (now : Clock) (b b' : Inbox) : Prop where
  command : ∀ l : LockState, b' = b.add (l.relay now) ↔ l.Asked (untilNul payload)
  silence : b' = b ↔ ∀ l : LockState, ¬l.Asked (untilNul payload)
  /-- A payload without a zero is taken as a whole. -/
  whole : 0 ∉ payload → ∀ l : LockState, b' = b.add (l.relay now) ↔ l.Asked payload

lemma receive_ensures (s : Session) (opened : Bool) (text : Bytes) (now : Clock) (h : b.Room) :
    ((s.receive text now).lower (Driver.lower opened)).Ensures created (fun s' b' => s' = s ∧
      b' = ((LockState.ofCommand? text).elim b fun l => b.add (l.relay now))) b := by
  unfold receive
  cases LockState.ofCommand? text with
  | none =>
    rintro _ _ rfl
    exact ⟨rfl, rfl⟩
  | some l =>
    refine (postEvent_ensures (l.relay now) b).bind fun ok b' hpost => ?_
    rw [post_room h] at hpost
    obtain ⟨rfl, rfl⟩ := Prod.mk.inj hpost
    exact ⟨rfl, rfl⟩

/-- A session that listens to a generation takes its messages. -/
lemma handle_message {t : Timing} {g : UInt8} (hs : s.Speaks g) {e : Event}
    (hkind : e.kind = .message) (harg : e.arg = g) (now : Clock) :
    s.handle t e now = s.receive e.text.view now := by
  unfold handle
  rw [if_neg (by simp [hs.configured, hs.running]), if_neg (by simp [harg, hs.generation]), hkind]
  exact if_pos hs.subscribed

/-- The command that is read from the text decides. -/
lemma relayed_of_ofCommand (h : b' =
    ((LockState.ofCommand? (untilNul payload)).elim b fun l => b.add (l.relay now))) :
    Relayed payload now b b' := by
  have hcommand (l : LockState) : b' = b.add (l.relay now) ↔ l.Asked (untilNul payload) := by
    rw [h, ← LockState.ofCommand?_eq_some_iff]
    cases LockState.ofCommand? (untilNul payload) with
    | none => simp [(b.add_ne _).symm]
    | some l' => simp [add_inj, LockState.relay_inj]
  refine ⟨hcommand, ?_, fun hzero l => ?_⟩
  · rw [h]
    simp only [← LockState.ofCommand?_eq_some_iff]
    cases LockState.ofCommand? (untilNul payload) with
    | none => simp
    | some l' => simp [b.add_ne]
  · rw [hcommand l, untilNul_eq_self hzero]

end Session

namespace Transport

open Inbox Session

/-- **Messages as commands**: a message of less than 24 bytes becomes one event, and a session that
listens to its generation then posts the lock command that the bytes before the first zero ask for,
or nothing. So a payload without a zero is a command exactly if it is one of the words, with blanks
around it perhaps and in any letter case; behind a zero it may have anything. A longer message is
left. -/
theorem message_commands (t : Timing) (opened : Bool) (x : Transport) (topic : Option Bytes)
    (payload : Bytes) {b : Inbox} (hroom : b.Room) :
    (x.deliver Board.postEvent topic payload).Ensures Inbox.created (fun _ b' =>
      (24 ≤ payload.length → b' = b) ∧
      (payload.length < 24 → ∃ e, e.kind = .message ∧ b' = b.add e ∧
        ∀ (s : Session), s.Speaks x.generation → ∀ (now : Clock) (c : Inbox), c.Room →
          ((s.handle t e now).lower (Driver.lower opened)).Ensures Inbox.created
            (fun s' c' => s' = s ∧ Relayed payload now c c') c)) b := by
  rintro time _ rfl
  refine (ensures_ite _ _ _ _ _).2 ⟨fun hfits => ?_, fun hlong => ?_⟩
  · have hshort : payload.length < 24 := fits_iff.1 hfits
    let e : Event :=
      { kind := .message, time := time, arg := x.generation, text := .pad payload }
    refine (postEvent_ensures e _).bind fun ok b' hpost => ?_
    rw [post_room hroom] at hpost
    obtain ⟨rfl, rfl⟩ := Prod.mk.inj hpost
    refine ⟨fun hlong => absurd hlong (Nat.not_le.2 hshort), fun _ => ⟨e, rfl, rfl, ?_⟩⟩
    intro s hs now c hc
    have htext : e.text.view = untilNul payload := Text.view_pad (Nat.le_of_lt hshort)
    rw [handle_message hs rfl rfl, htext]
    refine (receive_ensures s opened _ now hc).mono ?_
    rintro s' c' ⟨rfl, hc'⟩
    exact ⟨rfl, relayed_of_ofCommand hc'⟩
  · have hlong : ¬payload.length < 24 := mt fits_iff.2 hlong
    rintro _ _ rfl
    exact ⟨fun _ => rfl, fun hshort => absurd hshort hlong⟩

/-- An unlock command with a byte hidden behind a zero. -/
def hiddenTail : Bytes := ascii "UNLOCK" ++ [0] ++ ascii "x"

/-- A session that has subscribed on the first connection. -/
def listener : Session := { configured := true, state := .subscribed, generation := 1 }

/-- As a whole it is none of the words, but a session that listens takes it for a command. -/
theorem hidden_tail_unlocks :
    ({ capacity := 16 } : Inbox).Room ∧ listener.Speaks 1 ∧
    (∀ l : LockState, ¬l.Asked hiddenTail) ∧
    (({ generation := 1 } : Transport).deliver Board.postEvent none hiddenTail).Ensures
      Inbox.created (fun _ b' => ∃ e, b'.events = [e] ∧ ∀ now,
        ((listener.handle {} e now).lower (Driver.lower true)).Ensures Inbox.created
          (fun _ c' => c'.events = [LockState.unlocked.relay now]) { capacity := 16 })
      { capacity := 16 } := by
  have hroom : ({ capacity := 16 } : Inbox).Room := Nat.zero_lt_succ 15
  have hspeaks : listener.Speaks 1 := ⟨rfl, rfl, rfl, rfl⟩
  have hwhole : LockState.ofCommand? hiddenTail = none := by decide
  have hasked : LockState.unlocked.Asked (untilNul hiddenTail) :=
    LockState.ofCommand?_eq_some_iff.1 (by decide)
  refine ⟨hroom, hspeaks, fun l hl => ?_, ?_⟩
  · rw [← LockState.ofCommand?_eq_some_iff, hwhole] at hl
    cases hl
  · refine (message_commands {} true { generation := 1 } none hiddenTail hroom).mono ?_
    rintro _ b' ⟨-, hshort⟩
    obtain ⟨e, -, rfl, hcommand⟩ := hshort (by decide)
    refine ⟨e, rfl, fun now => (hcommand _ hspeaks now _ hroom).mono ?_⟩
    rintro _ c' ⟨-, hrelayed⟩
    rw [(hrelayed.command .unlocked).2 hasked]
    rfl

end Transport

end DoorControl
