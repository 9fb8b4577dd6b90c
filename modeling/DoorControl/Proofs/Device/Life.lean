import DoorControl.Proofs.Parts

/-!
The life of a device: a start, then ticks, events and requests in any order. Each operation is
taken apart into what the strike does and what the other parts do, who write no pin and report
neither door nor lock.
-/

namespace DoorControl

open Bytes Program

/-- The lock state that an event commands. -/
def Event.command? (e : Event) : Option LockState :=
  if (e.kind = .lockCommand ∨ e.kind = .externalLockCommand) ∧ e.arg ≤ LockState.unlocked.code then
    some ⟨e.arg⟩
  else none

lemma Event.command?_named {e : Event} {l : LockState} (h : e.command? = some l) :
    l = .locked ∨ l = .unlocked := by
  simp only [command?, Option.ite_none_right_eq_some, Option.some.injEq] at h
  obtain ⟨⟨-, hle⟩, rfl⟩ := h
  have hle : e.arg ≤ 1 := hle
  rcases (by grind : e.arg = 0 ∨ e.arg = 1) with harg | harg
  · exact .inl (congrArg LockState.mk harg)
  · exact .inr (congrArg LockState.mk harg)

/-- The door once an event is handled. -/
def Event.doorAfter (e : Event) (d : DoorState) : DoorState :=
  if e.kind = .doorChanged then ⟨e.arg⟩ else d

/-- An event that makes the device publish its state. -/
def Event.publishes (e : Event) : Bool := e.kind = .doorChanged || e.kind = .lockChanged

namespace Device

/-- The calls of every part but the strike. -/
def Asks : Hardware.Call → Prop
  | .pinWrite _ _ => False
  | .post e => e.kind ≠ .doorChanged ∧ e.kind ≠ .lockChanged
  | _ => True

lemma asks_of_button (c : Hardware.Call) (h : Button.Asks c) : Asks c := by
  cases c <;> simp_all [Button.Asks, Asks]

lemma asks_of_indicator (c : Hardware.Call) (h : Indicator.Asks c) : Asks c := by
  cases c <;> simp_all [Indicator.Asks, Asks]

lemma asks_of_link (c : Hardware.Call) (h : Link.Asks c) : Asks c := by
  cases c <;> simp_all [Link.Asks, Asks]

lemma asks_of_store (c : Hardware.Call) (h : Store.Asks c) : Asks c := by
  cases c <;> simp_all [Store.Asks, Asks]

lemma asks_of_session (c : Hardware.Call) (h : Session.Asks c) : Asks c := by
  cases c with
  | post e => rcases h with h | h <;> simp [Asks, h]
  | _ => simp_all [Session.Asks, Asks]

/-- What the device holds of door and lock: the strike, the door as last reported, and what the
session publishes. -/
def account (d : Device) : Strike × DoorState × LockState × DoorState :=
  (d.strike, d.door, d.session.report)

/-- That account after an event which commands nothing. -/
def accountAfter (d : Device) (e : Event) : Strike × DoorState × LockState × DoorState :=
  (d.strike, e.doorAfter d.door,
    if e.publishes then (d.strike.lock, e.doorAfter d.door) else d.session.report)

lemma accountAfter_other {d : Device} {e : Event} (hd : e.kind ≠ .doorChanged)
    (hl : e.kind ≠ .lockChanged) : d.accountAfter e = d.account := by
  simp [accountAfter, account, Event.doorAfter, Event.publishes, hd, hl]

variable {d : Device} {a : Strike × DoorState × LockState × DoorState} (now : Clock)

lemma reboot_confined (h : d.account = a) (why : RebootReason) :
    (d.reboot why).Confined Asks (·.account = a) := by
  unfold reboot
  split
  · exact h
  · exact ⟨trivial, fun _ => ⟨trivial, fun _ => h⟩⟩

/-- The snapshot is of the state in the end. -/
lemma refresh_confined (h : d.account = a) : (d.refresh now).Confined Asks fun d' =>
    d'.account = a ∧ d'.snapshot = .pack d'.systemState := by
  refine (d.indicator.apply_confined _ now).within asks_of_indicator fun _ _ => ?_
  exact ⟨h, rfl⟩

lemma startSetup_confined (h : d.account = a) :
    (d.startSetup now).Confined Asks (·.account = a) := by
  refine (d.link.enterSetup_confined now).within asks_of_link fun r _ => ?_
  dsimp only
  split
  · exact h
  · refine reboot_confined ?_ _
    exact h

lemma startRole_confined (h : d.account = a) : (d.startRole now).Confined Asks (·.account = a) := by
  unfold startRole
  split
  · exact ⟨trivial, fun _ => startSetup_confined now h⟩
  refine (Session.configure_confined rfl d.config).within asks_of_session fun r hr => ?_
  have h' : { d with session := r.2 }.account = a := by rw [← h, account, account, hr]
  dsimp only
  split
  · refine ⟨trivial, fun _ => startSetup_confined now ?_⟩
    exact h'
  · refine ⟨trivial, fun _ => (Link.start_confined _ _ _ _).within asks_of_link fun l _ => ?_⟩
    split
    · exact h'
    · refine reboot_confined ?_ _
      exact h'

lemma goOffline_confined (h : d.account = a) : d.goOffline.Confined Asks (·.account = a) := by
  refine (Session.shutdown_confined d.timing rfl).within asks_of_session fun session hs => ?_
  refine d.link.shutdown_confined.within asks_of_link fun link _ => ?_
  rw [← h, pure_eq, confined_done, account, account, hs]

lemma applySubmission_confined (h : d.account = a) :
    d.applySubmission.Confined Asks (·.account = a) := by
  refine ⟨trivial, fun offered => ?_⟩
  cases offered with
  | none => exact ⟨trivial, fun _ => h⟩
  | some s =>
    change (ite _ _ _ : Program Hardware Device).Confined _ _
    split
    · exact ⟨trivial, fun _ => h⟩
    refine (Store.save_confined _).within asks_of_store fun e _ => ?_
    cases e with
    | some e => exact ⟨trivial, fun _ => h⟩
    | none => exact (goOffline_confined h).bind fun d h => reboot_confined h _

lemma eraseWithin_confined (left attempt : Nat) :
    (eraseWithin left attempt).Confined Store.Asks fun _ => True := by
  induction left generalizing attempt with
  | zero => trivial
  | succ left ih =>
    refine Store.erase_confined.bind fun e _ => ?_
    cases e with
    | none => trivial
    | some e => exact ⟨trivial, fun _ => ih _⟩

lemma factoryReset_confined (h : d.account = a) (source : UInt8) :
    (d.factoryReset source).Confined Asks (·.account = a) := by
  refine ⟨trivial, fun _ => (goOffline_confined h).bind fun d h => ?_⟩
  refine (eraseWithin_confined _ _).within asks_of_store fun erased _ => ?_
  have hr := reboot_confined (d := { d with hasConfig := false }) h .factoryReset
  cases erased with
  | true => exact hr
  | false => exact ⟨trivial, fun _ => hr⟩

lemma publishState_confined (d : Device) :
    d.publishState.Confined Asks (·.account = (d.strike, d.door, d.strike.lock, d.door)) := by
  refine (d.session.publish_confined _ _).within asks_of_session fun session hs => ?_
  rw [pure_eq, confined_done, account, hs]

lemma commandLock_confined {arg : UInt8} (harg : ¬arg ≤ LockState.unlocked.code) :
    (d.commandLock arg).Confined Asks (·.account = d.account) := by
  unfold commandLock
  rw [if_pos (by simpa using harg)]
  exact ⟨trivial, fun _ => rfl⟩

lemma sessionHandle_confined (e : Event) :
    (d.session.handle d.timing e d.now >>= fun session =>
      pure { d with session := session }).Confined Asks (·.account = d.account) := by
  refine (Session.handle_confined _ _ rfl e).within asks_of_session fun session hs => ?_
  rw [pure_eq, confined_done, account, account, hs]

lemma reactOther_confined {e : Event} (he : e.command? = none) (hd : e.kind ≠ .doorChanged)
    (hl : e.kind ≠ .lockChanged) : (d.react e).Confined Asks (·.account = d.account) := by
  unfold Event.command? at he
  unfold react
  cases hk : e.kind with
  | doorChanged => exact absurd hk hd
  | lockChanged => exact absurd hk hl
  | lockCommand => exact commandLock_confined (by simpa [hk] using he)
  | externalLockCommand => exact commandLock_confined (by simpa [hk] using he)
  | resetRequested => exact factoryReset_confined rfl _
  | configSubmitted => exact applySubmission_confined rfl
  | linkChanged => exact ⟨trivial, fun _ => rfl⟩
  | sessionChanged => exact ⟨trivial, fun _ => rfl⟩
  | unknown _ => exact (rfl : d.account = d.account)
  | _ => exact sessionHandle_confined e

lemma react_confined {e : Event} (he : e.command? = none) :
    (d.react e).Confined Asks (·.account = d.accountAfter e) := by
  by_cases hd : e.kind = .doorChanged
  · simp only [react, accountAfter, Event.doorAfter, Event.publishes, hd]
    exact ⟨trivial, fun _ => publishState_confined { d with door := ⟨e.arg⟩ }⟩
  by_cases hl : e.kind = .lockChanged
  · simp only [react, accountAfter, Event.doorAfter, Event.publishes, hl]
    exact ⟨trivial, fun _ => publishState_confined d⟩
  · rw [accountAfter_other hd hl]
    exact reactOther_confined he hd hl

lemma react_command {e : Event} {l : LockState} (he : e.command? = some l) :
    d.react e = d.strike.set l d.now >>= fun strike => pure { d with strike := strike } := by
  simp only [Event.command?, Option.ite_none_right_eq_some, Option.some.injEq] at he
  obtain ⟨⟨hk, harg⟩, rfl⟩ := he
  have hc : d.commandLock e.arg =
      d.strike.set ⟨e.arg⟩ d.now >>= fun strike => pure { d with strike := strike } := by
    unfold commandLock
    rw [if_neg (by simpa using harg)]
  rcases hk with hk | hk <;> simpa only [react, hk] using hc

/-- What a tick does once the strike has taken its sample. -/
def afterSample (d : Device) (now : Clock) (strike : Strike) : Program Hardware Device := do
  let high ← Hardware.pinRead Pin.button
  let button ← d.button.tick (!high) (now - d.lastTick) now
  let link ← d.link.update d.timing now
  let session ← d.session.update d.timing (link.state == .connected) now
  let indicator ← d.indicator.update d.timing now
  pure { d with
    strike := strike
    button := button
    link := link
    session := session
    indicator := indicator
    lastTick := now
    now := now }

lemma tick_pending (h : d.rebootPending = true) : d.tick now = pure d := by
  unfold tick
  rw [if_pos h]

lemma tick_eq (h : d.rebootPending = false) :
    d.tick now = d.strike.sample now >>= d.afterSample now := by
  unfold tick
  rw [if_neg (by simp [h])]
  rfl

lemma afterSample_confined (strike : Strike) :
    (d.afterSample now strike).Confined Asks fun d' =>
      d'.account = (strike, d.door, d.session.report) ∧ d'.snapshot = d.snapshot := by
  refine ⟨trivial, fun _ => ?_⟩
  refine (d.button.tick_confined _ _ _).within asks_of_button fun button _ => ?_
  refine (d.link.update_confined _ _).within asks_of_link fun link _ => ?_
  refine (Session.update_confined _ _ rfl _).within asks_of_session fun session hs => ?_
  refine (d.indicator.update_confined _ _).within asks_of_indicator fun indicator _ => ?_
  rw [pure_eq, confined_done, account, hs]
  exact ⟨rfl, rfl⟩

/-- What the handling of an event does once the parts have reacted. -/
def conclude (d : Device) : Program Hardware (Bool × Device) :=
  if d.rebootPending then pure (false, d)
  else do
    let d ← d.refresh d.now
    pure (true, d)

lemma handle_eq (h : d.rebootPending = false) (e : Event) :
    d.handle e = d.react e >>= conclude := by
  unfold handle
  rw [if_neg (by simp [h])]
  rfl

lemma handle_pending (h : d.rebootPending = true) (e : Event) :
    d.handle e = pure (false, d) := by
  unfold handle
  rw [if_pos h]

/-- Unless a restart is due, the snapshot is of the present state in the end. -/
lemma conclude_confined (h : d.account = a) : d.conclude.Confined Asks fun r =>
    r.2.account = a ∧ (r.2.rebootPending = false → r.2.snapshot = .pack r.2.systemState) := by
  unfold conclude
  split
  · exact ⟨h, fun hr => by simp_all⟩
  · exact (refresh_confined _ h).bind fun d h => ⟨h.1, fun _ => h.2⟩

/-! ### Operations -/

/-- The handling of a command sets the strike before anything else. -/
lemma handle_command {e : Event} {l : LockState} (hr : d.rebootPending = false)
    (he : e.command? = some l) : d.handle e =
      d.strike.set l d.now >>= fun strike => conclude { d with strike := strike } := by
  rw [handle_eq hr, react_command he, Program.bind_assoc]
  rfl

/-- What the world does to a device that was started. -/
inductive Step
  | tick (now : Clock)
  | handle (e : Event)
  | requestLock (l : LockState) (now : Clock)
  | submit (s : Submission) (now : Clock)
  | requestReset (now : Clock)

/-- The device after one operation. -/
def act (d : Device) : Step → Program Hardware Device
  | .tick now => d.tick now
  | .handle e => do pure (← d.handle e).2
  | .requestLock l now => do let _ ← requestLock l now; pure d
  | .submit s now => do let _ ← submit s now; pure d
  | .requestReset now => do let _ ← requestReset now; pure d

/-- The start once the configuration is loaded. -/
def startFrom (d : Device) (now : Clock) (indicator : Indicator) (deviceId : Bytes)
    (stored : Option Config) : Program Hardware Device := do
  let config := stored.getD d.config
  let strike ← d.strike.start (stored.isSome && config.lockActiveHigh) now
  let d ← { d with
    now := now
    lastTick := now
    indicator := indicator
    deviceId := deviceId
    config := config
    hasConfig := stored.isSome
    strike := strike }.startRole now
  d.refresh now

end Device

/-- A device, with the configuration it found when it started and the events it handled while no
restart was due, the newest first. -/
structure Life where
  device : Device
  loaded : Option Config
  handled : List Event := []

namespace Life

/-- Starts a device. -/
def begin (t : Timing) (now : Clock) : Program Hardware Life := do
  let indicator ← (Device.new t).indicator.start now
  let deviceId ← Hardware.deviceId 16
  Hardware.pinInput Pin.button
  let loaded ← Store.load
  let device ← (Device.new t).startFrom now indicator deviceId loaded
  pure { device, loaded }

/-- The events handled after one more operation. -/
def handledAfter (l : Life) : Device.Step → List Event
  | .handle e => if l.device.rebootPending then l.handled else e :: l.handled
  | _ => l.handled

def step (l : Life) (s : Device.Step) : Program Hardware Life := do
  let device ← l.device.act s
  pure { l with device := device, handled := l.handledAfter s }

def run (l : Life) (steps : List Device.Step) : Program Hardware Life := steps.foldlM step l

lemma begin_device (t : Timing) (now : Clock) :
    device <$> begin t now = (Device.new t).start now := by
  simp only [begin, map_bind, map_pure, bind_pure]
  rfl

lemma step_device (l : Life) (s : Device.Step) : device <$> l.step s = l.device.act s := by
  simp only [step, map_bind, map_pure, bind_pure]

lemma run_device (l : Life) (steps : List Device.Step) :
    device <$> l.run steps = steps.foldlM Device.act l.device := by
  induction steps generalizing l with
  | nil => rfl
  | cons s steps ih =>
    rw [List.foldlM_cons, ← step_device, run, List.foldlM_cons]
    simp only [map_bind, bind_map_left]
    exact bind_congr fun l' => ih l'

/-- To keep what was loaded and handled changes nothing about what the device does. -/
lemma lived_device (t : Timing) (now : Clock) (steps : List Device.Step) :
    device <$> (begin t now >>= fun l => l.run steps) =
      (Device.new t).start now >>= fun d => steps.foldlM Device.act d := by
  simp only [map_bind, run_device, ← begin_device, bind_map_left]

lemma run_ensures {W : Type} {S : Surroundings Hardware W} {keep : Life → W → Prop}
    (hstep : ∀ l s w, keep l w → (l.step s).Ensures S keep w) (steps : List Device.Step) {l : Life}
    {w : W} (h : keep l w) : (l.run steps).Ensures S keep w := by
  induction steps generalizing l w with
  | nil => exact h
  | cons s steps ih => exact (hstep l s w h).bind fun l' w' h' => ih h'

end Life

end DoorControl
