import DoorControl.Device
import DoorControl.Proofs.Program

/-!
The calls that each part of the device makes, and what of the part stays as it is.
-/

namespace DoorControl

open Bytes Program

/-- Posting an event takes a log line at most besides. -/
lemma Hardware.postOrWarn_confined {P : Hardware.Call → Prop} (tag : Bytes) {e : Event}
    (hpost : P (.post e)) (hlog : ∀ line, P (.log line)) :
    (postOrWarn tag e).Confined P fun _ => True := by
  refine ⟨hpost, fun ok => ?_⟩
  cases ok with
  | true => trivial
  | false => exact ⟨hlog _, fun _ => trivial⟩

namespace Contact

/-- The calls that the door contact makes. -/
def Asks : Hardware.Call → Prop
  | .pinRead _ | .pinInput _ => True
  | _ => False

lemma noted_stable (c : Contact) (raw : Bool) (now : Clock) :
    (c.noted raw now).stable = c.stable := by
  unfold noted
  split <;> rfl

lemma start_confined (c : Contact) (now : Clock) :
    (c.start now).Confined Asks (·.stable = .unknown) :=
  ⟨trivial, fun _ => ⟨trivial, fun _ => rfl⟩⟩

/-- A report is of an open or a closed door, and is what the contact then believes. -/
lemma poll_confined (c : Contact) (now : Clock) : (c.poll now).Confined Asks fun r =>
    r.2.stable = r.1.getD c.stable ∧ ∀ d ∈ r.1, d = .opened ∨ d = .closed := by
  refine ⟨trivial, fun high => ?_⟩
  simp [Program.bind]
  split
  · simp [noted_stable]
  · rename_i d hd
    simp only [due, reading] at hd
    simp
    grind

end Contact

namespace Strike

variable {P : Hardware.Call → Prop} (s : Strike) (now : Clock)

lemma sample_confined (hread : ∀ c, Contact.Asks c → P c) (hlog : ∀ line, P (.log line))
    (hpost : ∀ d : DoorState, d = .opened ∨ d = .closed →
      P (.post { kind := .doorChanged, time := now, arg := d.code })) :
    (s.sample now).Confined P (·.lock = s.lock) := by
  refine (s.contact.poll_confined now).within hread fun r hr => ?_
  rcases r with ⟨_ | d, contact⟩
  · rfl
  · have hd : d = .opened ∨ d = .closed := hr.2 d rfl
    exact (Hardware.postOrWarn_confined _ (hpost d hd) hlog).bind fun _ _ => rfl

lemma set_confined (l : LockState) (hwrite : ∀ pin high, P (.pinWrite pin high))
    (hlog : ∀ line, P (.log line))
    (hpost : P (.post { kind := .lockChanged, time := now, arg := l.code })) :
    (s.set l now).Confined P (·.lock = l) :=
  ⟨hwrite _ _, fun _ => (Hardware.postOrWarn_confined _ hpost hlog).bind fun _ _ => rfl⟩

end Strike

namespace Button

/-- The calls that the reset button makes. -/
def Asks : Hardware.Call → Prop
  | .post e => e.kind = .resetRequested
  | .log _ => True
  | _ => False

lemma tick_confined (b : Button) (pressed : Bool) (dt : UInt32) (now : Clock) :
    (b.tick pressed dt now).Confined Asks fun _ => True := by
  simp [tick, Asks]

end Button

namespace Indicator

/-- The calls that the status light makes. -/
def Asks : Hardware.Call → Prop
  | .light _ _ _ => True
  | _ => False

lemma display_confined (s : Indicator) (c : LightColor) :
    (s.display c).Confined Asks fun _ => True := by
  simp [display, write, Asks]

lemma start_confined (s : Indicator) (now : Clock) :
    (s.start now).Confined Asks fun _ => True :=
  display_confined _ _

lemma apply_confined (s : Indicator) (p : LightPattern) (now : Clock) :
    (s.apply p now).Confined Asks fun _ => True := by
  unfold apply
  split
  · simp
  · exact (display_confined _ _).bind fun _ _ => by simp

lemma update_confined (t : Timing) (s : Indicator) (now : Clock) :
    (s.update t now).Confined Asks fun _ => True := by
  unfold update
  split
  · simp
  split
  · simp
  · exact display_confined _ _

end Indicator

namespace Link

/-- The calls that the Wi-Fi link makes. -/
def Asks : Hardware.Call → Prop
  | .startAccessPoint _ _ | .startStation _ _ | .stopRadio | .radioStatus | .log _ => True
  | .post e => e.kind = .linkChanged
  | _ => False

lemma transition_confined (s : Link) (next : LinkState) (now : Clock) :
    (s.transition next now).Confined Asks fun _ => True := by
  simp [transition, Hardware.postOrWarn, Asks]

lemma fail_confined (t : Timing) (s : Link) (now : Clock) (why : Failure) :
    (s.fail t now why).Confined Asks fun _ => True := by
  simp [fail, transition_confined, Asks]

lemma connect_confined (t : Timing) (s : Link) (now : Clock) :
    (s.connect t now).Confined Asks fun _ => True := by
  unfold connect
  refine (transition_confined _ _ _).bind fun _ _ => ?_
  simp [fail_confined, Asks]

lemma enterSetup_confined (s : Link) (now : Clock) :
    (s.enterSetup now).Confined Asks fun _ => True := by
  simp [enterSetup, transition_confined, Asks]

lemma start_confined (t : Timing) (s : Link) (c : Config) (now : Clock) :
    (s.start t c now).Confined Asks fun _ => True := by
  simp [start, connect_confined, Asks]

lemma update_confined (t : Timing) (s : Link) (now : Clock) :
    (s.update t now).Confined Asks fun _ => True := by
  unfold update
  split
  · simp
  cases s.state with
  | connecting =>
    refine ⟨trivial, fun r => ?_⟩
    cases r with
    | up => exact ⟨trivial, fun _ => transition_confined _ _ _⟩
    | failed => exact fail_confined t s now .association
    | down =>
      change (ite _ _ _ : Program Hardware Link).Confined _ _
      split
      · exact fail_confined t s now .timeout
      · trivial
  | connected => simp [watch, transition_confined, Asks]
  | disconnected => simp [connect_confined]
  | uninitialized => simp
  | setupMode => simp

lemma shutdown_confined (s : Link) : s.shutdown.Confined Asks fun _ => True := by
  simp [shutdown, Asks]

end Link

namespace Store

/-- The calls that the storage of the configuration takes. -/
def Asks : Hardware.Call → Prop
  | .storedLength _ | .storedRead _ _ | .storedWrite _ _ | .storedRemove _ | .log _ => True
  | _ => False

lemma readSlot_confined (s : Slot) : (readSlot s).Confined Asks fun _ => True := by
  simp [readSlot, Asks]
  intro n _ _ value _
  cases Record.decode? value <;> simp [Asks]

lemma load_confined : load.Confined Asks fun _ => True := by
  simp [load, readSlot_confined]

lemma save_confined (c : Config) : (save c).Confined Asks fun _ => True := by
  unfold save
  split
  · simp
  refine (readSlot_confined _).bind fun a _ => (readSlot_confined _).bind fun b _ => ?_
  simp [Asks]

lemma erase_confined : erase.Confined Asks fun _ => True := by
  simp [erase, Asks]

end Store

namespace Session

/-- The calls that the broker session makes. -/
def Asks : Hardware.Call → Prop
  | .request _ | .flush _ | .log _ => True
  | .post e => e.kind = .sessionChanged ∨ e.kind = .lockCommand
  | _ => False

/-- The state of the device as the session has it for publishing. -/
def report (s : Session) : LockState × DoorState := (s.lock, s.door)

variable {s : Session} {r : LockState × DoorState} (t : Timing) (now : Clock)

lemma configure_confined (h : s.report = r) (c : Config) :
    (s.configure c).Confined Asks (·.2.report = r) := by
  subst h
  simp only [configure]
  split
  · simp [report, Asks]
  cases Document.discovery? c (s.topics.build c.deviceId.view).2 with
  | none => simp [report, Asks]
  | some d => simp [report, Asks]

lemma transition_confined (h : s.report = r) (next : SessionState) :
    (s.transition next now).Confined Asks (·.report = r) := by
  unfold transition
  split
  · exact h
  · exact (Hardware.postOrWarn_confined _ (.inl rfl) fun _ => trivial).bind fun _ _ => h

/-- Makes a request and says so on the log when it is refused. -/
def requestOrWarn (r : Request) (message : Bytes) : Program Hardware Unit := do
  unless ← Hardware.request r do Hardware.warn tag message

lemma teardown_eq (s : Session) : s.teardown =
    (if s.state.announced then
      requestOrWarn (.publish s.generation s.topics.availability offline true)
        (ascii "offline notice not queued")
    else pure ()) >>= fun _ =>
    if s.state.active then
      requestOrWarn (.disconnect s.generation) (ascii "disconnect not queued")
    else pure () := by
  unfold teardown
  cases s.state.announced with
  | true =>
    refine congrArg (Program.call _) (funext fun taken => ?_)
    cases taken <;> rfl
  | false => rfl

lemma teardown_confined (s : Session) : s.teardown.Confined Asks fun _ => True := by
  simp [teardown, Asks]

lemma fail_confined (h : s.report = r) (why : Failure) :
    (s.fail t now why).Confined Asks (·.report = r) := by
  refine s.teardown_confined.bind fun _ _ => ⟨trivial, fun _ => transition_confined now ?_ _⟩
  exact h

lemma lose_confined (h : s.report = r) : (s.lose t now).Confined Asks (·.report = r) := by
  refine ⟨trivial, fun _ => transition_confined now ?_ _⟩
  exact h

lemma connect_confined (h : s.report = r) : (s.connect t now).Confined Asks (·.report = r) := by
  unfold connect
  refine (transition_confined now (r := r) ?_ _).bind fun s' h' => ?_
  · exact h
  · simp [h', fail_confined t now h', Asks]

lemma announce_confined (s : Session) : s.announce.Confined Asks fun _ => True := by
  simp [announce, Asks]

lemma enterConnected_confined (h : s.report = r) :
    (s.enterConnected t now).Confined Asks (·.report = r) := by
  refine (transition_confined now h _).bind fun s' h' => ?_
  refine s'.announce_confined.bind fun ok _ => ?_
  split
  · exact h'
  · exact fail_confined t now h' _

lemma publishPending_confined (h : s.report = r) :
    s.publishPending.Confined Asks (·.report = r) := by
  subst h
  simp [publishPending, report, Asks]

lemma enterSubscribed_confined (h : s.report = r) :
    (s.enterSubscribed now).Confined Asks (·.report = r) := by
  refine ⟨trivial, fun _ => (transition_confined now (r := r) ?_ _).bind fun s' h' => ?_⟩
  · exact h
  · exact publishPending_confined h'

lemma update_confined (h : s.report = r) (linkUp : Bool) :
    (s.update t linkUp now).Confined Asks (·.report = r) := by
  unfold update
  split
  · exact h
  split
  · split
    · exact h
    exact s.teardown_confined.bind fun _ _ => transition_confined now h _
  cases s.state with
  | idle => exact connect_confined t now h
  | backoff => simp [connect_confined t now h, h]
  | connecting => simp [fail_confined t now h, h]
  | connected => simp [fail_confined t now h, h]
  | subscribed => exact publishPending_confined h

lemma receive_confined (h : s.report = r) (payload : Bytes) :
    (s.receive payload now).Confined Asks (·.report = r) := by
  unfold receive
  cases LockState.ofCommand? payload <;> simp [h, Asks]

lemma handle_confined (h : s.report = r) (e : Event) :
    (s.handle t e now).Confined Asks (·.report = r) := by
  unfold handle
  split
  · exact h
  split
  · exact h
  cases e.kind with
  | transportUp => simp [enterConnected_confined t now h, h]
  | transportFailed => simp [fail_confined t now h, h]
  | subscribed => simp [enterSubscribed_confined now h, h]
  | publishFailed => simp [fail_confined t now h, h]
  | transportLost => simp [lose_confined t now h, h]
  | message => simp [receive_confined now h, h]
  | _ => exact h

lemma publish_confined (s : Session) (l : LockState) (d : DoorState) :
    (s.publish l d).Confined Asks (·.report = (l, d)) := by
  unfold publish
  dsimp only
  split
  · exact publishPending_confined rfl
  · exact rfl

lemma shutdown_confined (h : s.report = r) : (s.shutdown t).Confined Asks (·.report = r) := by
  subst h
  unfold shutdown
  split
  · exact rfl
  refine s.teardown_confined.bind fun _ _ => ?_
  simp [report, Asks]

end Session

end DoorControl
