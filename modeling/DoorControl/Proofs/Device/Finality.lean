import DoorControl.Proofs.Device.Restart
import DoorControl.Proofs.Device.Standing

/-!
A restart is asked for once, and that is the last thing that a device does: it asks for nothing
after it, and takes no notice any more of the time and of events.
-/

namespace DoorControl

open Bytes Program

namespace Device

variable {d : Device} {x : Snapshot} {h : List (Exchange Hardware)} (now : Clock)

/-- No restart is due, and the snapshot is the one that was shown before. -/
def Runs (x : Snapshot) (d : Device) : Prop := d.rebootPending = false ∧ d.snapshot = x

/-- What an operation comes to that found the snapshot `x` and no restart asked for. -/
inductive Settles (x : Snapshot) (d : Device) (h : List (Exchange Hardware)) : Prop
  | running (pending : d.rebootPending = false) (none : restarts h = 0)
  /-- The restart is the newest exchange, and the snapshot was not touched. -/
  | restarting (pending : d.rebootPending = true) (shown : d.snapshot = x)
    (once : restarts h = 1) (last : h.head? = some ⟨.restart, ()⟩)

/-! ### Going on -/

lemma going_of_indicator (c : Hardware.Call) (hc : Indicator.Asks c) : Going c := by
  cases c <;> trivial

lemma going_of_contact (c : Hardware.Call) (hc : Contact.Asks c) : Going c := by
  cases c <;> trivial

lemma going_of_button (c : Hardware.Call) (hc : Button.Asks c) : Going c := by
  cases c <;> trivial

lemma going_of_store (c : Hardware.Call) (hc : Store.Asks c) : Going c := by
  cases c <;> trivial

lemma going_of_session (c : Hardware.Call) (hc : Session.Asks c) : Going c := by
  cases c <;> trivial

lemma going_of_link (c : Hardware.Call) (hc : Link.Asks c) : Going c := by
  cases c <;> trivial

lemma goes_on {α : Type} {p : Program Hardware α} {post : α → Prop} (hp : p.Confined Going post)
    (hh : restarts h = 0) :
    p.Ensures (.history Hardware) (fun a h' => post a ∧ restarts h' = 0) h :=
  (hp.unchanged (fun _ r h hc => restarts_cons hc r h) h).mono fun _ _ ha => ⟨ha.1, ha.2.trans hh⟩

lemma settles_of_going {p : Program Hardware Device} (hp : p.Confined Going (Runs x))
    (hh : restarts h = 0) : p.Ensures (.history Hardware) (Settles x) h :=
  (goes_on hp hh).mono fun _ _ hd => .running hd.1.1 hd.2

lemma refresh_going (hr : d.rebootPending = false) :
    (d.refresh now).Confined Going (·.rebootPending = false) :=
  (d.indicator.apply_confined _ now).within going_of_indicator fun _ _ => hr

lemma publishState_going (hd : d.Runs x) : d.publishState.Confined Going (Runs x) :=
  (d.session.publish_confined _ _).within going_of_session fun _ _ => hd

lemma commandLock_going (hd : d.Runs x) (arg : UInt8) :
    (d.commandLock arg).Confined Going (Runs x) := by
  unfold commandLock
  split
  · exact ⟨trivial, fun _ => hd⟩
  · have hset := d.strike.set_confined (P := Going) d.now ⟨arg⟩ (fun _ _ => trivial)
      (fun _ => trivial) trivial
    exact hset.bind fun _ _ => hd

lemma sessionHandle_going (hd : d.Runs x) (e : Event) :
    (d.session.handle d.timing e d.now >>= fun session =>
      pure { d with session := session }).Confined Going (Runs x) :=
  (Session.handle_confined d.timing d.now rfl e).within going_of_session fun _ _ => hd

lemma goOffline_runs (hd : d.Runs x) : d.goOffline.Confined Going (Runs x) :=
  (Session.shutdown_confined d.timing rfl).within going_of_session fun _ _ =>
    d.link.shutdown_confined.within going_of_link fun _ _ => hd

/-! ### Operations -/

lemma reboot_settles (hd : d.Runs x) (hh : restarts h = 0) (why : RebootReason) :
    (d.reboot why).Ensures (.history Hardware) (Settles x) h := by
  unfold reboot
  rw [if_neg (by simp [hd.1])]
  rintro _ _ rfl _ _ rfl
  refine .restarting rfl hd.2 ?_ rfl
  rw [← Nat.zero_add 1, ← hh, ← restarts_cons (c := .log _) trivial () h]
  exact List.countP_cons_of_pos rfl

lemma log_settles (hd : d.Runs x) (hh : restarts h = 0) (level : Log.Level) (tag message : Bytes) :
    (Hardware.log level tag message >>= fun _ => pure d).Ensures (.history Hardware) (Settles x) h :=
  settles_of_going (p := Hardware.log level tag message >>= fun _ => pure d)
    ⟨trivial, fun _ => hd⟩ hh

lemma applySubmission_settles (hd : d.Runs x) (hh : restarts h = 0) :
    d.applySubmission.Ensures (.history Hardware) (Settles x) h := by
  rintro taken _ rfl
  have hh : restarts (⟨.take, taken⟩ :: h) = 0 := (restarts_cons (c := .take) trivial _ h).trans hh
  cases taken with
  | none => exact log_settles hd hh .warning _ _
  | some s =>
    change (ite _ _ _ : Program Hardware Device).Ensures _ _ _
    split
    · exact log_settles hd hh .warning _ _
    refine (goes_on ((Store.save_confined _).mono going_of_store fun _ => id) hh).bind ?_
    rintro failure h' ⟨-, hh⟩
    cases failure with
    | some e => exact log_settles hd hh .error _ _
    | none => exact (goes_on (goOffline_runs hd) hh).bind fun d' h' hd => reboot_settles hd.1 hd.2 _

lemma factoryReset_settles (hd : d.Runs x) (hh : restarts h = 0) (source : UInt8) :
    (d.factoryReset source).Ensures (.history Hardware) (Settles x) h := by
  rintro _ _ rfl
  refine (goes_on (goOffline_runs hd) ((restarts_cons (c := .log _) trivial () h).trans hh)).bind ?_
  rintro d' h' ⟨hd, hh⟩
  have herase := (eraseWithin_confined (eraseAttempts d'.timing) 1).mono going_of_store fun _ => id
  refine (goes_on herase hh).bind ?_
  rintro erased h' ⟨-, hh⟩
  have hreboot {h : List (Exchange Hardware)} (hh : restarts h = 0) :=
    reboot_settles (d := { d' with hasConfig := false }) (x := x) hd hh .factoryReset
  cases erased with
  | true => exact hreboot hh
  | false =>
    rintro _ _ rfl
    exact hreboot ((restarts_cons (c := .log _) trivial () h').trans hh)

/-- Only a submission and a reset may end in a restart. -/
lemma react_settles (hd : d.Runs x) (hh : restarts h = 0) (e : Event) :
    (d.react e).Ensures (.history Hardware) (Settles x) h := by
  unfold react
  cases e.kind with
  | doorChanged =>
    refine settles_of_going (p := Hardware.info (ascii "DOOR") _ >>= fun _ => _)
      ⟨trivial, fun _ => ?_⟩ hh
    exact publishState_going (d := { d with door := ⟨e.arg⟩ }) hd
  | lockChanged =>
    exact settles_of_going (p := Hardware.info (ascii "LOCK") _ >>= fun _ => _)
      ⟨trivial, fun _ => publishState_going hd⟩ hh
  | lockCommand => exact settles_of_going (commandLock_going hd e.arg) hh
  | externalLockCommand => exact settles_of_going (commandLock_going hd e.arg) hh
  | resetRequested => exact factoryReset_settles hd hh e.arg
  | configSubmitted => exact applySubmission_settles hd hh
  | linkChanged => exact log_settles hd hh .info _ _
  | sessionChanged => exact log_settles hd hh .info _ _
  | unknown _ => exact .running hd.1 hh
  | _ => exact settles_of_going (sessionHandle_going hd e) hh

/-- A device that asked for a restart does not refresh what it shows. -/
lemma conclude_settles (hd : d.Settles x h) :
    d.conclude.Ensures (.history Hardware) (fun r h' => r.2.Settles x h') h := by
  unfold conclude
  cases hd with
  | running hr hh =>
    rw [if_neg (by simp [hr])]
    refine (goes_on (refresh_going d.now hr) hh).bind ?_
    rintro d' h' ⟨hr, hh⟩
    exact .running hr hh
  | restarting hr hx hh hl =>
    rw [if_pos hr]
    exact .restarting hr hx hh hl

lemma tick_going (hr : d.rebootPending = false) :
    (d.tick now).Confined Going (·.rebootPending = false) := by
  rw [tick_eq now hr]
  have hsample := d.strike.sample_confined (P := Going) now going_of_contact (fun _ => trivial)
    fun _ _ => trivial
  refine hsample.bind fun strike _ => ⟨trivial, fun high => ?_⟩
  refine (d.button.tick_confined _ _ _).within going_of_button fun button _ => ?_
  refine (d.link.update_confined _ _).within going_of_link fun link _ => ?_
  refine (Session.update_confined _ _ rfl _).within going_of_session fun session _ => ?_
  exact (d.indicator.update_confined _ _).within going_of_indicator fun indicator _ => hr

/-- **One operation** of a device that no restart was asked for. -/
lemma act_settles (hr : d.rebootPending = false) (hh : restarts h = 0) (s : Step) :
    (d.act s).Ensures (.history Hardware) (Settles d.snapshot) h := by
  cases s with
  | tick now =>
    exact (goes_on (tick_going now hr) hh).mono fun _ _ hd => .running hd.1 hd.2
  | handle e =>
    change (d.handle e >>= _).Ensures _ _ _
    rw [handle_eq hr]
    exact ((react_settles ⟨hr, rfl⟩ hh e).bind fun d' h' hd => conclude_settles hd).bind
      fun r h' hd => hd
  | requestLock l now => exact settles_of_going (p := _ >>= _) ⟨trivial, fun _ => ⟨hr, rfl⟩⟩ hh
  | submit s now =>
    refine settles_of_going (p := _ >>= _) ⟨trivial, fun ok => ?_⟩ hh
    cases ok with
    | true => exact ⟨trivial, fun _ => ⟨hr, rfl⟩⟩
    | false => exact ⟨hr, rfl⟩
  | requestReset now => exact settles_of_going (p := _ >>= _) ⟨trivial, fun _ => ⟨hr, rfl⟩⟩ hh

/-! ### The start -/

/-- All that a device shows is as it was made. -/
structure Unchanged (d : Device) : Prop where
  state : d.systemState = {}
  light : d.lightPattern = d.indicator.pattern

lemma Unchanged.refresh (hd : d.Unchanged) :
    d.refresh now = pure { d with snapshot := .pack {} } := by
  have hlight : d.indicator.apply d.lightPattern now = pure (false, d.indicator) := by
    rw [Indicator.apply, if_pos hd.light]
  unfold Device.refresh
  rw [hlight, ← hd.state]
  rfl

lemma refresh_settles (hd : d.Settles (.pack {}) h) (hu : d.rebootPending = true → d.Unchanged) :
    (d.refresh now).Ensures (.history Hardware) (Settles (.pack {})) h := by
  cases hd with
  | running hr hh =>
    exact (goes_on (refresh_going now hr) hh).mono fun _ _ hd => .running hd.1 hd.2
  | restarting hr hx hh hl =>
    rw [(hu hr).refresh now]
    exact .restarting hr rfl hh hl

lemma enterSetup_going (link : Link) : (link.enterSetup now).Confined Going
    fun r => r.1 = false → r.2 = link := by
  have hlink (next : LinkState) := (link.transition_confined next now).mono going_of_link fun _ => id
  unfold Link.enterSetup
  split
  · exact ⟨trivial, fun _ _ => rfl⟩
  refine ⟨trivial, fun opened => ?_⟩
  cases opened with
  | true => exact (hlink .setupMode).bind fun _ _ => nofun
  | false => exact ⟨trivial, fun _ _ => rfl⟩

/-- When the access point is refused, nothing was done but to ask for a restart. -/
lemma startSetup_settles (hd : d.Runs (.pack {})) (hu : d.Unchanged) (hh : restarts h = 0) :
    (d.startSetup now).Ensures (.history Hardware)
      (fun d' h' => d'.Settles (.pack {}) h' ∧ (d'.rebootPending = true → d'.Unchanged)) h := by
  refine (goes_on (enterSetup_going now d.link) hh).bind ?_
  rintro ⟨opened, link⟩ h' ⟨hrefused, hh⟩
  cases opened with
  | true => exact ⟨.running hd.1 hh, fun hr => by simp [hd.1] at hr⟩
  | false =>
    obtain rfl := hrefused rfl
    have hkept : (d.reboot .setupRefused).Gives fun d' => d'.rebootPending = true → d'.Unchanged := by
      unfold reboot
      rw [if_neg (by simp [hd.1])]
      exact ⟨trivial, fun _ => ⟨trivial, fun _ _ => ⟨hu.state, hu.light⟩⟩⟩
    exact (reboot_settles hd hh .setupRefused).and (hkept.anyhow _)

lemma takeStation_going (hl : d.link.state = .uninitialized) (hr : d.rebootPending = false) :
    (d.takeStation now).Confined Going (·.rebootPending = false) := by
  have hstart : (d.link.start d.timing d.config now).Confined Going (·.1 = true) := by
    unfold Link.start
    rw [if_neg (by simp [hl])]
    exact (Link.connect_confined _ _ _).within going_of_link fun _ _ => rfl
  refine hstart.bind ?_
  rintro ⟨started, link⟩ hs
  obtain rfl : started = true := hs
  exact hr

lemma startRole_settles (loaded : Option Config) (hl : d.link.state = .uninitialized)
    (hd : d.Runs (.pack {})) (hu : d.Unchanged) (hc : d.hasConfig = loaded.isSome)
    (hloaded : ∀ c ∈ loaded, d.config = c ∧ c.complete = true) (hh : restarts h = 0) :
    (d.startRole now).Ensures (.history Hardware)
      (fun d' h' => d'.Settles (.pack {}) h' ∧ (d'.rebootPending = true → d'.Unchanged)) h := by
  cases loaded with
  | none =>
    rw [startRole_setup now hc]
    rintro _ _ rfl
    exact startSetup_settles now hd hu ((restarts_cons (c := .log _) trivial () h).trans hh)
  | some c =>
    obtain ⟨rfl, hcomplete⟩ := hloaded c rfl
    obtain ⟨session, -, hrole⟩ := startRole_station now hc hcomplete
    rw [hrole]
    rintro _ _ rfl
    have hstation := takeStation_going (d := { d with session := session }) now hl hd.1
    refine (goes_on hstation ((restarts_cons (c := .log _) trivial () h).trans hh)).mono ?_
    rintro d' h' ⟨hr, hh⟩
    exact ⟨.running hr hh, fun hr' => by simp [hr] at hr'⟩

lemma startFrom_settles (t : Timing) {loaded : Option Config}
    (hloaded : ∀ c ∈ loaded, c.complete = true) {indicator : Indicator}
    (hlight : indicator.pattern = ⟨.red, false⟩) (id : Bytes) (hh : restarts h = 0) :
    ((new t).startFrom now indicator id loaded).Ensures (.history Hardware)
      (Settles (.pack {})) h := by
  have hstrike : ((new t).strike.start (loaded.isSome && (loaded.getD {}).lockActiveHigh) now).Confined
      Going (·.lock = .locked) :=
    ⟨trivial, fun _ => ⟨trivial, fun _ => ((new t).strike.contact.start_confined now).within
      going_of_contact fun _ _ => rfl⟩⟩
  refine (goes_on hstrike hh).bind ?_
  rintro strike h' ⟨hlock, hh⟩
  refine (startRole_settles now loaded rfl ⟨rfl, rfl⟩ ⟨?_, ?_⟩ rfl
    (fun c hc => ⟨?_, hloaded c hc⟩) hh).bind fun d h' hd => refresh_settles now hd.1 hd.2
  · simp [systemState, hlock, hlight, inSetup, new]
  · rw [hlight]
    rfl
  · obtain rfl := hc
    rfl

end Device

namespace Life

open Device

/-- A life with one restart at most, which is the end of it. -/
structure Final (l : Life) (h : List (Exchange Hardware)) : Prop where
  once : restarts h ≤ 1
  due : l.device.rebootPending = true ↔ restarts h = 1
  /-- Time and events come to nothing from then on: no call, no change. -/
  tick : restarts h = 1 → ∀ now, l.device.tick now = pure l.device
  handle : restarts h = 1 → ∀ e, l.device.handle e = pure (false, l.device)
  /-- The operation that asks for the restart asks for nothing after it, and does not touch the
  snapshot. -/
  last : restarts h = 0 → ∀ s, (l.device.act s).Ensures (.history Hardware) (fun d h' =>
    restarts h' ≠ 0 → d.snapshot = l.device.snapshot ∧ h'.head? = some ⟨.restart, ()⟩) h

/-- While no restart is due none was asked for, and one was once it is. -/
def Asked (l : Life) (h : List (Exchange Hardware)) : Prop :=
  restarts h = if l.device.rebootPending then 1 else 0

lemma Asked.of_settles {l : Life} {x : Snapshot} {h : List (Exchange Hardware)}
    (hl : l.device.Settles x h) : l.Asked h := by
  cases hl with
  | running hr hh => simpa [Asked, hr] using hh
  | restarting hr _ hh _ => simpa [Asked, hr] using hh

lemma begin_settles (t : Timing) (now : Clock) : (begin t now).Ensures (.history Hardware)
    (fun l h => l.device.Settles (.pack {}) h) [] := by
  have hlight : ((Device.new t).indicator.start now).Confined Going (·.pattern = ⟨.red, false⟩) :=
    ⟨trivial, fun _ => rfl⟩
  have hload : Store.load.Confined Going fun r => ∀ c ∈ r, c.complete = true :=
    (Store.load_confined.and Store.load_complete).mono (fun c hc => going_of_store c hc.1)
      fun _ => And.right
  refine (goes_on hlight rfl).bind ?_
  rintro indicator h ⟨hlight, hh⟩ id _ rfl _ _ rfl
  have hh : restarts (⟨.pinInput Pin.button, ()⟩ :: ⟨.deviceId 16, id⟩ :: h) = 0 := hh
  refine (goes_on hload hh).bind ?_
  rintro loaded h' ⟨hloaded, hh⟩
  exact (Device.startFrom_settles now t hloaded hlight id hh).bind fun d h' hd => hd

/-- A device that has a restart due makes no call but to queue what is asked of it. -/
lemma act_pending {d : Device} (hr : d.rebootPending = true) (s : Device.Step) :
    (d.act s).Confined Going (· = d) := by
  cases s with
  | tick now => rw [act, tick_pending now hr]; exact rfl
  | handle e => rw [act, handle_pending hr]; exact rfl
  | requestLock l now => exact ⟨trivial, fun _ => rfl⟩
  | submit s now =>
    refine ⟨trivial, fun ok => ?_⟩
    cases ok with
    | true => exact ⟨trivial, fun _ => rfl⟩
    | false => exact rfl
  | requestReset now => exact ⟨trivial, fun _ => rfl⟩

lemma Asked.step {l : Life} {h : List (Exchange Hardware)} (hl : l.Asked h) (s : Device.Step) :
    (l.step s).Ensures (.history Hardware) Asked h := by
  cases hr : l.device.rebootPending with
  | false =>
    have hh : restarts h = 0 := by simpa [Asked, hr] using hl
    exact (act_settles hr hh s).bind fun d h' hd => .of_settles (l := { l with device := d }) hd
  | true =>
    refine ((act_pending hr s).unchanged (fun _ r h hc => restarts_cons hc r h) h).bind ?_
    rintro d h' ⟨rfl, hh⟩
    exact hh.trans hl

/-- What was asked for is what is due. -/
lemma Asked.final {l : Life} {h : List (Exchange Hardware)} (hl : l.Asked h) : l.Final h := by
  cases hr : l.device.rebootPending with
  | false =>
    have hh : restarts h = 0 := by simpa [Asked, hr] using hl
    have hnone {P : Prop} (h1 : restarts h = 1) : P := by omega
    refine ⟨by omega, by simp [hr, hh], hnone, hnone, fun hh s => (act_settles hr hh s).mono ?_⟩
    rintro d h' hd h1
    cases hd with
    | running _ h0 => exact absurd h0 h1
    | restarting _ hx _ hlast => exact ⟨hx, hlast⟩
  | true =>
    have hh : restarts h = 1 := by simpa [Asked, hr] using hl
    exact ⟨by omega, by simp [hr, hh], fun _ now => tick_pending now hr, fun _ e =>
      handle_pending hr e, fun h0 => by omega⟩

/-- **The restart is single and final.** A start that asks for a restart asks for nothing after it
and shows what it did before. In every later moment of any run at most one restart was asked for;
from then on neither time nor an event makes the device call anything or change anything, and the
answer to an event is no. The operation that asks for it ends with it: it is the newest exchange,
and the snapshot is the one before. -/
theorem restart_final (t : Timing) (now : Clock) (steps : List Device.Step) :
    (begin t now).Ensures (.history Hardware) (fun l h => restarts h ≠ 0 →
      l.device.snapshot = (Device.new t).snapshot ∧ h.head? = some ⟨.restart, ()⟩) [] ∧
    (do (← begin t now).run steps).Ensures (.history Hardware) Final [] := by
  refine ⟨(begin_settles t now).mono ?_, (begin_settles t now).bind fun l h hl => ?_⟩
  · rintro l h hl h1
    cases hl with
    | running _ h0 => exact absurd h0 h1
    | restarting _ hx _ hlast => exact ⟨hx, hlast⟩
  · have hasked := run_ensures (fun l s h (hl : l.Asked h) => hl.step s) steps (.of_settles hl)
    exact hasked.mono fun _ _ => Asked.final

end Life

end DoorControl
