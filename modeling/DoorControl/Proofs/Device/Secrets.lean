import DoorControl.Console.Command
import DoorControl.Proofs.Bench
import DoorControl.Proofs.Device.Life

/-!
The device with other passwords, stored or submitted: it does the same, and what it shows of itself
is the same.
-/

namespace DoorControl

open Bytes Program Hardware Vaults

namespace Device

/-- The device with other secrets in its parts. -/
def keyed (d : Device) (link : Link) (session : Session) (config : Config) : Device :=
  { d with link, session, config }

/-- The two devices differ in passwords at most. -/
def Akin (d d' : Device) : Prop :=
  ∃ link session config, d' = d.keyed link session config ∧ d.link.Akin link ∧
    d.session.Akin session ∧ d.config.Akin config

variable {d d' : Device} (now : Clock)

lemma Akin.refl (d : Device) : d.Akin d :=
  ⟨d.link, d.session, d.config, rfl, ⟨_, rfl⟩, ⟨_, rfl⟩, .refl _⟩

lemma Akin.pending (h : d.Akin d') : d'.rebootPending = d.rebootPending := by
  obtain ⟨_, _, _, rfl, _⟩ := h
  rfl

lemma Akin.time (h : d.Akin d') : d'.now = d.now := by
  obtain ⟨_, _, _, rfl, _⟩ := h
  rfl

lemma Akin.snapshot_eq (h : d.Akin d') : d'.snapshot = d.snapshot := by
  obtain ⟨_, _, _, rfl, _⟩ := h
  rfl

lemma Akin.shows (h : d.Akin d') :
    d'.lightPattern = d.lightPattern ∧ d'.systemState = d.systemState := by
  obtain ⟨_, _, _, rfl, ⟨_, rfl⟩, ⟨_, rfl⟩, -⟩ := h
  exact ⟨rfl, rfl⟩

lemma Akin.repacked (h : d.Akin d') :
    Akin { d with snapshot := .pack d.systemState } { d' with snapshot := .pack d'.systemState } := by
  rw [h.shows.2]
  obtain ⟨link, session, config, rfl, h⟩ := h
  exact ⟨link, session, config, rfl, h⟩

/-! ### Start -/

lemma reboot_akin (h : d.Akin d') (why : RebootReason) :
    (d.reboot why).Alike veiled Akin (d'.reboot why) := by
  have hstay := h
  obtain ⟨link, session, config, rfl, h⟩ := h
  refine alike_ite .rfl (fun _ => hstay) fun _ => ?_
  refine outside_call (c := .log _) trivial fun _ => ?_
  refine outside_call (c := .restart) trivial fun _ => ?_
  exact ⟨link, session, config, rfl, h⟩

lemma outside_of_part (c : Hardware.Call)
    (h : Indicator.Asks c ∨ Button.Asks c ∨ Contact.Asks c) : Outside c := by
  cases c <;> simp_all [Indicator.Asks, Button.Asks, Contact.Asks, Outside]

lemma refresh_akin (h : d.Akin d') :
    (d.refresh now).Alike veiled Akin (d'.refresh now) := by
  have hshows := h.shows.1
  obtain ⟨link, session, config, rfl, h⟩ := h
  unfold refresh
  rw [hshows]
  refine outside_bind ((d.indicator.apply_confined d.lightPattern now).mono
    (fun c h => outside_of_part c (.inl h)) fun _ => id) fun r _ => ?_
  have h' : Akin { d with indicator := r.2 }
      ({ d with indicator := r.2 }.keyed link session config) := ⟨link, session, config, rfl, h⟩
  exact h'.repacked

lemma startSetup_akin (h : d.Akin d') :
    (d.startSetup now).Alike veiled Akin (d'.startSetup now) := by
  obtain ⟨_, session, config, rfl, ⟨pass, rfl⟩, h⟩ := h
  refine (d.link.enterSetup_akin pass now).bind ?_
  rintro ⟨opened, link⟩ ⟨_, link'⟩ ⟨rfl, hlink⟩
  have h' : Akin { d with link } ({ d with link }.keyed link' session config) :=
    ⟨link', session, config, rfl, hlink, h⟩
  exact alike_ite .rfl (fun _ => h') fun _ => reboot_akin h' _

lemma startRole_akin (h : d.Akin d') :
    (d.startRole now).Alike veiled Akin (d'.startRole now) := by
  have hstay := h
  obtain ⟨_, _, config, rfl, ⟨pass, rfl⟩, ⟨mqttPass, rfl⟩, hconfig⟩ := h
  refine alike_ite .rfl (fun _ => ?_) fun _ => ?_
  · exact outside_call (c := .log _) trivial fun _ => startSetup_akin now hstay
  refine (d.session.configure_akin mqttPass hconfig).bind ?_
  rintro ⟨usable, session⟩ ⟨_, session'⟩ ⟨rfl, hsession⟩
  refine alike_ite .rfl (fun _ => ?_) fun _ => ?_
  · refine outside_call (c := .log _) trivial fun _ => ?_
    exact startSetup_akin (d := { d with session, hasConfig := false }) now
      ⟨_, session', config, rfl, ⟨pass, rfl⟩, hsession, hconfig⟩
  have hid : config.deviceId = d.config.deviceId ∧ config.deviceName = d.config.deviceName := by
    obtain ⟨_, _, rfl, -⟩ := hconfig
    exact ⟨rfl, rfl⟩
  simp only [keyed, hid]
  refine outside_call (c := .log _) trivial fun _ => ?_
  refine (d.link.start_akin d.timing pass now hconfig).bind ?_
  rintro ⟨started, link⟩ ⟨_, link'⟩ ⟨rfl, hlink⟩
  have h' : Akin { d with session, link } ({ d with session, link }.keyed link' session' config) :=
    ⟨link', session', config, rfl, hlink, hsession, hconfig⟩
  exact alike_ite .rfl (fun _ => h') fun _ => reboot_akin h' _

lemma start_akin (h : d.Akin d') :
    (d.start now).Along tandem Vaults.Akin Akin (d'.start now) := by
  obtain ⟨link, session, config, rfl, hlink, hsession, hconfig⟩ := h
  refine outside_along ((d.indicator.start_confined now).mono
    (fun c h => outside_of_part c (.inl h)) fun _ => id) fun indicator => ?_
  refine outside_along (p := Hardware.deviceId 16) ⟨trivial, fun _ => trivial⟩ fun deviceId => ?_
  refine outside_along (p := Hardware.pinInput Pin.button) ⟨trivial, fun _ => trivial⟩ fun _ => ?_
  refine Store.load_akin.bind fun stored stored' hstored => veiled_along ?_
  have hloaded : (stored.getD d.config).Akin (stored'.getD config) := by
    cases hstored with
    | none => exact hconfig
    | some h => exact h
  have hfound : stored'.isSome = stored.isSome := by
    cases hstored <;> rfl
  simp only [keyed, hfound, hloaded.lockActiveHigh_eq]
  refine outside_bind (M := fun _ => True) (by simp [Strike.start, Strike.drive, Contact.start,
    Contact.readClosed, Outside]) fun strike _ => ?_
  refine Alike.bind (startRole_akin now ⟨link, session, _, rfl, hlink, hsession, ?_⟩) fun _ _ h =>
    refresh_akin now h
  exact hloaded

/-! ### Time -/

lemma tick_akin (h : d.Akin d') : (d.tick now).Alike veiled Akin (d'.tick now) := by
  have hstay := h
  obtain ⟨_, _, config, rfl, ⟨pass, rfl⟩, ⟨mqttPass, rfl⟩, hconfig⟩ := h
  refine alike_ite .rfl (fun _ => hstay) fun _ => ?_
  refine outside_bind (d.strike.sample_confined now (fun c h => outside_of_part c (.inr (.inr h)))
    (fun _ => trivial) fun _ _ => trivial) fun strike _ => ?_
  refine outside_bind (p := Hardware.pinRead Pin.button) (M := fun _ => True)
    ⟨trivial, fun _ => trivial⟩ fun high _ => ?_
  refine outside_bind ((d.button.tick_confined _ _ now).mono
    (fun c h => outside_of_part c (.inr (.inl h))) fun _ => id) fun button _ => ?_
  refine (d.link.update_akin d.timing pass now).bind ?_
  rintro link _ ⟨pass, rfl⟩
  refine (d.session.update_akin d.timing mqttPass now _).bind fun session session' hsession => ?_
  refine outside_bind ((d.indicator.update_confined d.timing now).mono
    (fun c h => outside_of_part c (.inl h)) fun _ => id) fun indicator _ => ?_
  exact ⟨_, session', config, rfl, ⟨pass, rfl⟩, hsession, hconfig⟩

/-! ### Events -/

lemma publishState_akin (h : d.Akin d') :
    d.publishState.Alike veiled Akin d'.publishState := by
  obtain ⟨link, _, config, rfl, hlink, ⟨pass, rfl⟩, hconfig⟩ := h
  exact (d.session.publish_akin pass d.strike.lock d.door).bind fun session session' hsession =>
    ⟨link, session', config, rfl, hlink, hsession, hconfig⟩

lemma goOffline_akin (h : d.Akin d') : d.goOffline.Alike veiled Akin d'.goOffline := by
  obtain ⟨_, _, config, rfl, ⟨pass, rfl⟩, ⟨mqttPass, rfl⟩, hconfig⟩ := h
  refine (d.session.shutdown_akin d.timing mqttPass).bind fun session session' hsession => ?_
  refine (d.link.shutdown_akin pass).bind fun link link' hlink => ?_
  exact ⟨link', session', config, rfl, hlink, hsession, hconfig⟩

lemma configWith_akin (h : d.Akin d') {s s' : Submission} (hs : s.Akin s') :
    (d.configWith s).Akin (d'.configWith s') := by
  obtain ⟨_, _, config, rfl, -, -, hconfig⟩ := h
  have hbase : (if d.hasConfig then d.config else {} : Config).Akin
      (if d.hasConfig then config else {}) := by
    split
    · exact hconfig
    · exact .refl _
  have hnamed {c c' : Config} (h : c.Akin c') (id : Text 16) :
      (if c.deviceId.view = [] then { c with deviceId := id } else c).Akin
        (if c'.deviceId.view = [] then { c' with deviceId := id } else c') := by
    obtain ⟨wifiPass, mqttPass, rfl, hpresent⟩ := h
    rw [show (c.keyed wifiPass mqttPass).deviceId = c.deviceId from rfl]
    split
    · exact ⟨wifiPass, mqttPass, rfl, hpresent⟩
    · exact ⟨wifiPass, mqttPass, rfl, hpresent⟩
  exact hnamed (hbase.merge hs) _

/-- A submission is complete with any passwords or with none. -/
lemma applySubmission_akin (h : d.Akin d') :
    d.applySubmission.Along tandem Vaults.Akin Akin d'.applySubmission := by
  refine along_call (M := Option.Rel Submission.Akin) .take ?_ fun o o' ho => ?_
  · intro s o o' s' hs hr
    cases hr with
    | veiled h => exact h.outside.elim
    | taken ho => exact ⟨ho, hs⟩
  cases ho with
  | none => exact Store.log_along _ h
  | some hs =>
    have hconfig := configWith_akin h hs
    refine along_ite (by rw [hconfig.complete_eq]) (fun _ => Store.log_along _ h) fun _ => ?_
    refine (Store.save_akin hconfig).bind ?_
    rintro failure _ rfl
    cases failure with
    | some e => exact Store.log_along _ h
    | none => exact veiled_along ((goOffline_akin h).bind fun _ _ h => reboot_akin h _)

lemma eraseWithin_akin (left attempt : Nat) :
    (eraseWithin left attempt).Along tandem Vaults.Akin Eq (eraseWithin left attempt) := by
  induction left generalizing attempt with
  | zero => exact along_done rfl
  | succ left ih =>
    refine Store.erase_akin.bind ?_
    rintro failure _ rfl
    cases failure with
    | none => exact along_done rfl
    | some e =>
      exact outside_along (p := Hardware.error _ _) ⟨trivial, fun _ => trivial⟩ fun _ => ih _

lemma factoryReset_akin (h : d.Akin d') (source : UInt8) :
    (d.factoryReset source).Along tandem Vaults.Akin Akin (d'.factoryReset source) := by
  refine outside_along (p := Hardware.warn _ _) ⟨trivial, fun _ => trivial⟩ fun _ => ?_
  refine (veiled_along (goOffline_akin h)).bind ?_
  rintro d _ ⟨link, session, config, rfl, h⟩
  have h' : Akin { d with hasConfig := false }
      ({ d with hasConfig := false }.keyed link session config) := ⟨link, session, config, rfl, h⟩
  refine (eraseWithin_akin (eraseAttempts d.timing) 1).bind ?_
  rintro erased _ rfl
  cases erased with
  | true => exact veiled_along (reboot_akin h' _)
  | false => exact outside_along (p := Hardware.error _ _) ⟨trivial, fun _ => trivial⟩ fun _ =>
      veiled_along (reboot_akin h' _)

lemma commandLock_akin (h : d.Akin d') (arg : UInt8) :
    (d.commandLock arg).Alike veiled Akin (d'.commandLock arg) := by
  have hstay := h
  obtain ⟨link, session, config, rfl, h⟩ := h
  refine alike_ite .rfl (fun _ => outside_call (c := .log _) trivial fun _ => hstay) fun _ => ?_
  refine outside_bind (d.strike.set_confined d.now ⟨arg⟩ (fun _ _ => trivial) (fun _ => trivial)
    trivial) fun strike _ => ?_
  exact ⟨link, session, config, rfl, h⟩

lemma sessionHandle_akin (h : d.Akin d') (e : Event) :
    (d.session.handle d.timing e d.now >>= fun session =>
      pure { d with session := session }).Alike veiled Akin
      (d'.session.handle d'.timing e d'.now >>= fun session =>
        pure { d' with session := session }) := by
  obtain ⟨link, _, config, rfl, hlink, ⟨pass, rfl⟩, hconfig⟩ := h
  exact (d.session.handle_akin d.timing pass d.now e).bind fun session session' hsession =>
    ⟨link, session', config, rfl, hlink, hsession, hconfig⟩

lemma react_akin (h : d.Akin d') (e : Event) :
    (d.react e).Along tandem Vaults.Akin Akin (d'.react e) := by
  unfold react
  cases e.kind with
  | doorChanged =>
    obtain ⟨link, session, config, rfl, h⟩ := h
    refine veiled_along (outside_call (c := .log _) trivial fun _ => ?_)
    exact publishState_akin (d := { d with door := ⟨e.arg⟩ }) ⟨link, session, config, rfl, h⟩
  | lockChanged =>
    exact veiled_along (outside_call (c := .log _) trivial fun _ => publishState_akin h)
  | lockCommand => exact veiled_along (commandLock_akin h _)
  | externalLockCommand => exact veiled_along (commandLock_akin h _)
  | resetRequested => exact factoryReset_akin h _
  | configSubmitted => exact applySubmission_akin h
  | linkChanged => exact Store.log_along _ h
  | sessionChanged => exact Store.log_along _ h
  | unknown _ => exact along_done h
  | _ => exact veiled_along (sessionHandle_akin h e)

lemma handle_akin (h : d.Akin d') (e : Event) :
    (d.handle e).Along tandem Vaults.Akin (fun r r' => r'.1 = r.1 ∧ r.2.Akin r'.2) (d'.handle e) := by
  refine along_ite (by rw [h.pending]) (fun _ => along_done ⟨rfl, h⟩) fun _ => ?_
  refine (react_akin h e).bind fun d d' h => ?_
  refine along_ite (by rw [h.pending]) (fun _ => along_done ⟨rfl, h⟩) fun _ => ?_
  rw [h.time]
  exact veiled_along ((refresh_akin d.now h).bind fun _ _ h => ⟨rfl, h⟩)

/-! ### What comes in and what is shown -/

/-- What happens to a device: it is started, operated, or told something on its console. -/
inductive Input
  | start (now : Clock)
  | step (s : Step)
  | line (s : Bytes) (now : Clock)

/-- Fields that are read with an error both times, or as submissions that differ in passwords
only. -/
inductive ReadAkin : Option FieldError × Submission → Option FieldError × Submission → Prop
  | rejected (e e' : FieldError) (s s' : Submission) : ReadAkin (some e, s) (some e', s')
  | accepted {s s' : Submission} (h : s.Akin s') : ReadAkin (none, s) (none, s')

lemma ReadAkin.refl (r : Option FieldError × Submission) : ReadAkin r r := by
  obtain ⟨_ | e, s⟩ := r
  · exact .accepted (.refl s)
  · exact .rejected e e s s

instance : (r r' : Option FieldError × Submission) → Decidable (ReadAkin r r')
  | (some e, s), (some e', s') => isTrue (.rejected e e' s s')
  | (none, s), (none, s') => decidable_of_iff (s.Akin s')
    ⟨.accepted, fun h => by cases h; assumption⟩
  | (none, _), (some _, _) => isFalse nofun
  | (some _, _), (none, _) => isFalse nofun

/-- The same command, or submissions of such fields. -/
inductive CommandAkin : Command → Command → Prop
  | same (c : Command) : CommandAkin c c
  | config {f f' : Bytes} (h : ReadAkin (Fields.read f) (Fields.read f')) :
    CommandAkin (.config f) (.config f')

/-- The same input, or submissions, handed in or typed in, that differ in passwords only. -/
inductive Input.Akin : Input → Input → Prop
  | start (now : Clock) : Akin (.start now) (.start now)
  | step (s : Step) : Akin (.step s) (.step s)
  | submit {s s' : Submission} (now : Clock) (h : s.Akin s') :
    Akin (.step (.submit s now)) (.step (.submit s' now))
  | line {l l' : Bytes} (now : Clock) (h : CommandAkin (.ofLine l) (.ofLine l')) :
    Akin (.line l now) (.line l' now)

/-- The reply as far as it is compared: that to submitted fields is left out. -/
def openReply : Command → Reply → Option Reply
  | .config _, _ => none
  | _, r => some r

/-- One input, and the reply to it. -/
def take (d : Device) : Input → Program Hardware (Option Reply × Device)
  | .start now => do pure (none, ← d.start now)
  | .step s => do pure (none, ← d.act s)
  | .line s now => do pure (openReply (.ofLine s) (← d.command s now), d)

/-- What a device shows of itself on some inputs: the replies, and the snapshot after each. -/
def shown (d : Device) : List Input → Program Hardware (List (Option Reply × Snapshot))
  | [] => pure []
  | i :: rest => do
    let (reply, d) ← d.take i
    pure ((reply, d.snapshot) :: (← d.shown rest))

lemma submit_akin {s s' : Submission} (h : s.Akin s') :
    (submit s now).Alike veiled Eq (submit s' now) := by
  refine veiled_call (.offer h) ?_
  rintro ok _ ⟨⟩
  cases ok with
  | true => exact outside_call (c := .post _) trivial fun _ => rfl
  | false => exact rfl

/-- Submitted fields go the same way, whatever the passwords. -/
lemma run_config_akin {f f' : Bytes} (h : ReadAkin (Fields.read f) (Fields.read f')) :
    ((Command.config f).run d now).Alike veiled (fun _ _ => True)
      ((Command.config f').run d' now) := by
  simp only [Command.run]
  generalize Fields.read f = r at h ⊢
  generalize Fields.read f' = r' at h ⊢
  cases h with
  | rejected => exact trivial
  | accepted hs =>
    refine (submit_akin now hs).bind ?_
    rintro ok _ rfl
    exact alike_ite .rfl (fun _ => trivial) fun _ => trivial

/-- Other commands post the same event, or read a snapshot that is the same. -/
lemma run_akin (h : d.Akin d') {c c' : Command} (hc : CommandAkin c c') :
    (c.run d now).Alike veiled (fun r r' => openReply c' r' = openReply c r) (c'.run d' now) := by
  have hpost (e : Event) (r r' : Reply) : (Hardware.post e >>= fun ok =>
      if ok then pure r else pure r').Alike veiled Eq (Hardware.post e >>= fun ok =>
      if ok then pure r else pure r') :=
    outside_call (c := .post e) trivial fun ok => alike_ite .rfl (fun _ => rfl) fun _ => rfl
  cases hc with
  | same =>
    cases c with
    | setLock l => exact (hpost _ _ _).mono fun _ _ h => by rw [h]
    | status => exact congrArg (fun s => some (Reply.status s)) h.snapshot_eq
    | reset => exact (hpost _ _ _).mono fun _ _ h => by rw [h]
    | config f => exact (run_config_akin now (.refl _)).mono fun _ _ _ => rfl
    | unknown word => exact rfl
  | config h => exact (run_config_akin now h).mono fun _ _ _ => rfl

lemma act_akin (h : d.Akin d') (s : Step) :
    (d.act s).Along tandem Vaults.Akin Akin (d'.act s) := by
  cases s with
  | tick now => exact veiled_along (tick_akin now h)
  | handle e => exact (handle_akin h e).bind fun _ _ h => along_done h.2
  | requestLock l now =>
    exact outside_along (p := Hardware.post _) ⟨trivial, fun _ => trivial⟩ fun _ => along_done h
  | submit s now =>
    exact veiled_along ((submit_akin now (.refl s)).bind fun _ _ _ => h)
  | requestReset now =>
    exact outside_along (p := Hardware.post _) ⟨trivial, fun _ => trivial⟩ fun _ => along_done h

/-- **One input** to both devices. -/
lemma take_akin (h : d.Akin d') {i i' : Input} (hi : i.Akin i') :
    (d.take i).Along tandem Vaults.Akin (fun r r' => r'.1 = r.1 ∧ r.2.Akin r'.2) (d'.take i') := by
  cases hi with
  | start now => exact (start_akin now h).bind fun _ _ h => along_done ⟨rfl, h⟩
  | step s => exact (act_akin h s).bind fun _ _ h => along_done ⟨rfl, h⟩
  | submit now hs =>
    exact veiled_along (Alike.bind (M := Akin) ((submit_akin now hs).bind fun _ _ _ => h)
      fun _ _ h => ⟨rfl, h⟩)
  | line now hc => exact veiled_along ((run_akin now h hc).bind fun _ _ hr => ⟨hr, h⟩)

/-- **Any inputs** to both devices. -/
lemma shown_akin (h : d.Akin d') {inputs inputs' : List Input}
    (hi : List.Forall₂ Input.Akin inputs inputs') :
    (d.shown inputs).Along tandem Vaults.Akin Eq (d'.shown inputs') := by
  induction hi generalizing d d' with
  | nil => exact along_done rfl
  | cons hi _ ih =>
    refine (take_akin h hi).bind ?_
    rintro ⟨reply, d⟩ ⟨_, d'⟩ ⟨rfl, h⟩
    refine (ih h).bind ?_
    rintro later _ rfl
    exact along_done (by rw [h.snapshot_eq])

/-- **Secrets are kept**: two devices whose stored configurations and submissions differ in
passwords only, in surroundings that answer alike, show the same of themselves and make the same
calls in the same order, log lines and events included, but for the passwords handed to the radio
and the transport and the records written to storage. -/
theorem secrets_kept {U V : Type} {rel : U → V → Vaults → Prop} {E : Environment Hardware U}
    {E' : Environment Hardware V} (hE : E.Abreast tandem rel E') {inputs inputs' : List Input}
    (hi : List.Forall₂ Input.Akin inputs inputs') (t : Timing) {u : U} {v : V} {s : Vaults}
    (hrel : rel u v s) (hs : s.Akin) :
    let r := ((new t).shown inputs).run E.recorded (u, [])
    let r' := ((new t).shown inputs').run E'.recorded (v, [])
    r'.1 = r.1 ∧ r'.2.2.map (·.call.redacted) = r.2.2.map (·.call.redacted) := by
  obtain ⟨s', ⟨hshown, -⟩, -, hrecords⟩ := (shown_akin (.refl (new t)) hi s hs).run hE.recorded
    (u := (u, [])) (v := (v, [])) ⟨hrel, .nil⟩
  exact ⟨hshown.symm, redacted_records hrecords⟩

/-- A bench with a configuration in storage and the network in reach. -/
def homeBench (c : Config) : Bench where
  radio := .up
  storage := Storage.set {} Store.Slot.a.key (Record.encode c 1)

lemma homeBench_beside {c c' : Config} (h : c.Akin c') (hc : c.complete) :
    ∃ s, (homeBench c).Beside (homeBench c') s ∧ s.Akin := by
  refine ⟨_, ⟨_, none, rfl, rfl, .none, rfl⟩, fun slot => ?_⟩
  simp only [homeBench, Storage.get_set]
  split
  · exact Record.akin_encode h hc 1
  · exact .inl rfl

/-- A device that takes up its network, shows its state and is given another password. -/
def rekeyed (pass : String) : List Input :=
  [.start 0, .step (.tick 10), .line (ascii "status") 20,
    .line (ascii "config wifi_pass=" ++ ascii pass) 30,
    .step (.handle { kind := .configSubmitted, time := 30 })]

/-- Nothing tells which passwords a device starts with, and which it is given. -/
theorem secrets_kept_rekeyed :
    let home := Store.named (ascii "Door")
    let away := home.keyed (.ofBytes (ascii "sesame")) (.ofBytes (ascii "xyzzy"))
    let r := ((new {}).shown (rekeyed "mellon")).run Bench.environment.recorded (homeBench home, [])
    let r' := ((new {}).shown (rekeyed "friend")).run Bench.environment.recorded (homeBench away, [])
    (home.wifiPass ≠ away.wifiPass ∧ home.mqttPass ≠ away.mqttPass ∧ home.complete) ∧
      List.Forall₂ Input.Akin (rekeyed "mellon") (rekeyed "friend") ∧
      r'.1 = r.1 ∧ r'.2.2.map (·.call.redacted) = r.2.2.map (·.call.redacted) := by
  intro home away
  have hakin : home.Akin away := by decide +kernel
  have hcomplete : home.complete = true := by decide +kernel
  obtain ⟨s, hbeside, hs⟩ := homeBench_beside hakin hcomplete
  have hmellon : Command.ofLine (ascii "config wifi_pass=" ++ ascii "mellon") =
      .config (ascii "wifi_pass=mellon") := rfl
  have hfriend : Command.ofLine (ascii "config wifi_pass=" ++ ascii "friend") =
      .config (ascii "wifi_pass=friend") := rfl
  have hline : CommandAkin (.ofLine (ascii "config wifi_pass=" ++ ascii "mellon"))
      (.ofLine (ascii "config wifi_pass=" ++ ascii "friend")) := by
    rw [hmellon, hfriend]
    exact .config (by decide +kernel)
  have hinputs : List.Forall₂ Input.Akin (rekeyed "mellon") (rekeyed "friend") :=
    .cons (.start 0) (.cons (.step _) (.cons (.line 20 (.same _)) (.cons (.line 30 hline)
      (.cons (.step _) .nil))))
  exact ⟨by decide +kernel, hinputs, secrets_kept Bench.abreast hinputs {} hbeside hs⟩

end Device

end DoorControl
