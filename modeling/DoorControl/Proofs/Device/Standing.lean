import DoorControl.Proofs.Config.Slots
import DoorControl.Proofs.Device.Life
import DoorControl.Proofs.Session.Room

/-!
What stands through the life of a device until a restart is due: the configuration that it found and
the identity that it has, and that it gave up neither the broker nor the network.
-/

namespace DoorControl

open Bytes Program

namespace Program

variable {I : Interface} {α β : Type}

/-- Whatever is answered, the program gives a value in `post`. -/
abbrev Gives (post : α → Prop) (p : Program I α) : Prop := p.Confined (fun _ => True) post

lemma gives_true (p : Program I α) : p.Gives fun _ => True := by
  induction p with
  | done a => trivial
  | call c next ih => exact ⟨trivial, ih⟩

/-- What follows a program may do so whatever it gives. -/
lemma Gives.after {p : Program I α} {f : α → Program I β} {post : β → Prop}
    (hf : ∀ a, (f a).Gives post) : (p >>= f).Gives post :=
  (gives_true p).bind fun a _ => hf a

/-- What a program gives, it gives in any surroundings. -/
lemma Gives.anyhow {W : Type} {S : Surroundings I W} {p : Program I α} {post : α → Prop}
    (hp : p.Gives post) (w : W) : p.Ensures S (fun a _ => post a) w :=
  (Confined.ensures (K := fun _ => True) hp (fun _ _ _ _ _ _ => id) trivial).mono
    fun _ _ => And.left

/-- An exchange is not forgotten. -/
lemma Gives.remembers {p : Program I α} {post : α → Prop} (hp : p.Gives post) {x : Exchange I}
    {h : List (Exchange I)} (hx : x ∈ h) :
    p.Ensures (.history I) (fun a h' => post a ∧ x ∈ h') h := by
  refine hp.ensures ?_ hx
  rintro c h r _ - rfl hx
  exact List.mem_cons_of_mem _ hx

end Program

/-! ### The session -/

namespace Session

variable {s : Session} {x : Bool × Bool × Topics} (t : Timing) (now : Clock)

/-- Whether the session was set up, whether it was shut down, and its topics. -/
def standing (s : Session) : Bool × Bool × Topics := (s.configured, s.stopped, s.topics)

lemma transition_standing (h : s.standing = x) (next : SessionState) :
    (s.transition next now).Gives (·.standing = x) := by
  unfold transition
  split
  · exact h
  · exact Gives.after fun _ => h

lemma fail_standing (h : s.standing = x) (why : Failure) :
    (s.fail t now why).Gives (·.standing = x) :=
  Gives.after fun _ => ⟨trivial, fun _ => transition_standing now (by exact h) _⟩

lemma lose_standing (h : s.standing = x) : (s.lose t now).Gives (·.standing = x) :=
  ⟨trivial, fun _ => transition_standing now (by exact h) _⟩

lemma connect_standing (h : s.standing = x) : (s.connect t now).Gives (·.standing = x) := by
  refine (transition_standing now (by exact h) _).bind fun s' h' => ⟨trivial, fun taken => ?_⟩
  cases taken with
  | true => exact ⟨trivial, fun _ => h'⟩
  | false => exact fail_standing t now h' _

lemma enterConnected_standing (h : s.standing = x) :
    (s.enterConnected t now).Gives (·.standing = x) := by
  refine (transition_standing now h _).bind fun s' h' => Gives.after fun ok => ?_
  cases ok with
  | true => exact h'
  | false => exact fail_standing t now h' _

lemma publishPending_standing (h : s.standing = x) : s.publishPending.Gives (·.standing = x) := by
  unfold publishPending
  split
  · exact h
  · refine ⟨trivial, fun taken => ?_⟩
    cases taken <;> exact h

lemma enterSubscribed_standing (h : s.standing = x) :
    (s.enterSubscribed now).Gives (·.standing = x) := by
  refine ⟨trivial, fun _ => (transition_standing now (by exact h) _).bind fun s' h' => ?_⟩
  exact publishPending_standing h'

lemma update_standing (h : s.standing = x) (linkUp : Bool) :
    (s.update t linkUp now).Gives (·.standing = x) := by
  unfold update
  split
  · exact h
  split
  · split
    · exact h
    · exact Gives.after fun _ => transition_standing now h _
  cases s.state with
  | idle => exact connect_standing t now h
  | backoff => simp [connect_standing t now h, h]
  | connecting => simp [fail_standing t now h, h]
  | connected => simp [fail_standing t now h, h]
  | subscribed => exact publishPending_standing h

lemma receive_standing (h : s.standing = x) (payload : Bytes) :
    (s.receive payload now).Gives (·.standing = x) := by
  unfold receive
  cases LockState.ofCommand? payload <;> simp [h]

lemma handle_standing (h : s.standing = x) (e : Event) :
    (s.handle t e now).Gives (·.standing = x) := by
  unfold handle
  split
  · exact h
  split
  · exact h
  cases e.kind with
  | transportUp => simp [enterConnected_standing t now h, h]
  | transportFailed => simp [fail_standing t now h, h]
  | subscribed => simp [enterSubscribed_standing now h, h]
  | publishFailed => simp [fail_standing t now h, h]
  | transportLost => simp [lose_standing t now h, h]
  | message => simp [receive_standing now h, h]
  | _ => exact h

lemma publish_standing (h : s.standing = x) (l : LockState) (d : DoorState) :
    (s.publish l d).Gives (·.standing = x) := by
  unfold publish
  dsimp only
  split
  · exact publishPending_standing h
  · exact h

/-- The session was not shut down. -/
def Open (s : Session) : Prop := s.stopped = false

lemma Open.of_standing (h : s.Open) {s' : Session} (hs : s'.standing = s.standing) : s'.Open := by
  simp only [standing, Prod.mk.injEq] at hs
  exact hs.2.1.trans h

lemma update_open (h : s.Open) (linkUp : Bool) : (s.update t linkUp now).Gives Open :=
  (update_standing t now rfl linkUp).mono (fun _ => id) fun _ => h.of_standing

lemma handle_open (h : s.Open) (e : Event) : (s.handle t e now).Gives Open :=
  (handle_standing t now rfl e).mono (fun _ => id) fun _ => h.of_standing

lemma publish_open (h : s.Open) (l : LockState) (d : DoorState) : (s.publish l d).Gives Open :=
  (publish_standing rfl l d).mono (fun _ => id) fun _ => h.of_standing

end Session

/-! ### The link -/

namespace Link

variable {s : Link} (t : Timing) (now : Clock)

/-- The link took a role and did not give it up. -/
structure Holding (s : Link) : Prop where
  running : s.stopped = false
  taken : s.state ≠ .uninitialized

lemma transition_holding (h : s.stopped = false) {next : LinkState} (hn : next ≠ .uninitialized) :
    (s.transition next now).Gives Holding := by
  unfold transition
  split
  · rename_i he
    exact ⟨h, he ▸ hn⟩
  · exact Gives.after fun _ => ⟨h, hn⟩

lemma fail_holding (h : s.stopped = false) (why : Failure) : (s.fail t now why).Gives Holding :=
  ⟨trivial, fun _ => ⟨trivial, fun _ => transition_holding now (by exact h) nofun⟩⟩

lemma connect_holding (h : s.stopped = false) : (s.connect t now).Gives Holding := by
  have hnext : LinkState.connecting ≠ .uninitialized := nofun
  refine (transition_holding now (by exact h) hnext).bind fun s' h' => ⟨trivial, fun ok => ?_⟩
  cases ok with
  | true => exact ⟨trivial, fun _ => h'⟩
  | false => exact fail_holding t now h'.running _

lemma update_holding (h : s.Holding) : (s.update t now).Gives Holding := by
  unfold update
  split
  · exact h
  cases hs : s.state with
  | connecting =>
    refine ⟨trivial, fun r => ?_⟩
    cases r with
    | up => exact ⟨trivial, fun _ => transition_holding now (by exact h.running) nofun⟩
    | failed => exact fail_holding t now h.running _
    | down =>
      change (ite _ _ _ : Program Hardware Link).Gives _
      split
      · exact fail_holding t now h.running _
      · exact h
  | connected =>
    refine ⟨trivial, fun r => ?_⟩
    change (ite _ _ _ : Program Hardware Link).Gives _
    split
    · exact h
    · refine ⟨trivial, fun _ => ⟨trivial, fun _ => ?_⟩⟩
      exact transition_holding now (by exact h.running) nofun
  | disconnected => simp [connect_holding t now h.running, h]
  | uninitialized => exact absurd hs h.taken
  | setupMode => exact h

/-- A start that succeeds takes a role. -/
lemma start_holding (h : s.stopped = false) (c : Config) :
    (s.start t c now).Gives fun r => r.1 = true → r.2.Holding := by
  unfold start
  split
  · exact ⟨trivial, fun _ => nofun⟩
  · exact (connect_holding t now (by exact h)).bind fun s' h' _ => h'

lemma enterSetup_holding (h : s.stopped = false) :
    (s.enterSetup now).Gives fun r => r.1 = true → r.2.Holding := by
  have hnext : LinkState.setupMode ≠ .uninitialized := nofun
  unfold enterSetup
  split
  · exact ⟨trivial, fun _ => nofun⟩
  · refine ⟨trivial, fun ok => ?_⟩
    cases ok with
    | true => exact (transition_holding now h hnext).bind fun s' h' _ => h'
    | false => exact ⟨trivial, fun _ => nofun⟩

end Link

/-! ### The device -/

namespace Device

/-- What the device holds of its start. -/
structure Stands (t : Timing) (id : Bytes) (loaded : Option Config) (d : Device) : Prop where
  timing : d.timing = t
  deviceId : d.deviceId = id
  hasConfig : d.rebootPending = false → d.hasConfig = loaded.isSome
  config : d.rebootPending = false → d.config = loaded.getD {}
  session : d.rebootPending = false → d.session.Open
  link : d.rebootPending = false → d.link.Holding

variable {t : Timing} {id : Bytes} {loaded : Option Config} {d : Device} (now : Clock)

/-- Nothing is to stand that has a restart due. -/
lemma reboot_stands (ht : d.timing = t) (hid : d.deviceId = id) (why : RebootReason) :
    (d.reboot why).Gives (Stands t id loaded) := by
  have hdue {d : Device} (ht : d.timing = t) (hid : d.deviceId = id) (hd : d.rebootPending = true) :
      d.Stands t id loaded :=
    ⟨ht, hid, by simp [hd], by simp [hd], by simp [hd], by simp [hd]⟩
  unfold reboot
  split
  · rename_i hd
    exact hdue ht hid hd
  · exact ⟨trivial, fun _ => ⟨trivial, fun _ => hdue ht hid rfl⟩⟩

lemma refresh_stands (h : d.Stands t id loaded) : (d.refresh now).Gives (Stands t id loaded) :=
  Gives.after fun _ => ⟨h.timing, h.deviceId, h.hasConfig, h.config, h.session, h.link⟩

lemma tick_stands (h : d.Stands t id loaded) : (d.tick now).Gives (Stands t id loaded) := by
  cases hr : d.rebootPending with
  | true =>
    rw [tick_pending now hr]
    exact h
  | false =>
    rw [tick_eq now hr]
    refine Gives.after fun strike => Gives.after fun high => Gives.after fun button => ?_
    refine (Link.update_holding d.timing now (h.link hr)).bind fun link hl => ?_
    refine (Session.update_open d.timing now (h.session hr) _).bind fun session hs => ?_
    exact Gives.after fun indicator =>
      ⟨h.timing, h.deviceId, h.hasConfig, h.config, fun _ => hs, fun _ => hl⟩

lemma Stands.withSession (h : d.Stands t id loaded) {session : Session} (hs : session.Open) :
    { d with session := session }.Stands t id loaded :=
  ⟨h.timing, h.deviceId, h.hasConfig, h.config, fun _ => hs, h.link⟩

lemma publishState_stands (h : d.Stands t id loaded) (hr : d.rebootPending = false) :
    d.publishState.Gives (Stands t id loaded) :=
  (Session.publish_open (h.session hr) _ _).bind fun _ hs => h.withSession hs

lemma goOffline_keeps (d : Device) :
    d.goOffline.Gives fun d' => d'.timing = d.timing ∧ d'.deviceId = d.deviceId :=
  Gives.after fun _ => Gives.after fun _ => ⟨rfl, rfl⟩

lemma factoryReset_stands (h : d.Stands t id loaded) (source : UInt8) :
    (d.factoryReset source).Gives (Stands t id loaded) := by
  refine ⟨trivial, fun _ => d.goOffline_keeps.bind fun d' hd => Gives.after fun erased => ?_⟩
  have hreboot :
      (reboot { d' with hasConfig := false } .factoryReset).Gives (Stands t id loaded) := by
    refine reboot_stands ?_ ?_ _
    · exact hd.1.trans h.timing
    · exact hd.2.trans h.deviceId
  cases erased with
  | true => exact hreboot
  | false => exact ⟨trivial, fun _ => hreboot⟩

lemma applySubmission_stands (h : d.Stands t id loaded) :
    d.applySubmission.Gives (Stands t id loaded) := by
  refine ⟨trivial, fun offered => ?_⟩
  cases offered with
  | none => exact ⟨trivial, fun _ => h⟩
  | some s =>
    change (ite _ _ _ : Program Hardware Device).Gives _
    split
    · exact ⟨trivial, fun _ => h⟩
    refine Gives.after fun e => ?_
    cases e with
    | some e => exact ⟨trivial, fun _ => h⟩
    | none =>
      refine d.goOffline_keeps.bind fun d' hd => ?_
      exact reboot_stands (hd.1.trans h.timing) (hd.2.trans h.deviceId) _

lemma commandLock_stands (h : d.Stands t id loaded) (arg : UInt8) :
    (d.commandLock arg).Gives (Stands t id loaded) := by
  unfold commandLock
  split
  · exact ⟨trivial, fun _ => h⟩
  · exact Gives.after fun _ => ⟨h.timing, h.deviceId, h.hasConfig, h.config, h.session, h.link⟩

lemma react_stands (h : d.Stands t id loaded) (hr : d.rebootPending = false) (e : Event) :
    (d.react e).Gives (Stands t id loaded) := by
  unfold react
  cases e.kind with
  | doorChanged =>
    refine ⟨trivial, fun _ => publishState_stands (d := { d with door := ⟨e.arg⟩ }) ?_ hr⟩
    exact ⟨h.timing, h.deviceId, h.hasConfig, h.config, h.session, h.link⟩
  | lockChanged => exact ⟨trivial, fun _ => publishState_stands h hr⟩
  | lockCommand => exact commandLock_stands h e.arg
  | externalLockCommand => exact commandLock_stands h e.arg
  | resetRequested => exact factoryReset_stands h e.arg
  | configSubmitted => exact applySubmission_stands h
  | linkChanged => exact ⟨trivial, fun _ => h⟩
  | sessionChanged => exact ⟨trivial, fun _ => h⟩
  | unknown _ => exact h
  | _ =>
    refine (Session.handle_open d.timing d.now (h.session hr) e).bind fun _ hs => ?_
    exact h.withSession hs

lemma handle_stands (h : d.Stands t id loaded) (e : Event) :
    (d.handle e).Gives fun r => r.2.Stands t id loaded := by
  cases hr : d.rebootPending with
  | true =>
    rw [handle_pending hr]
    exact h
  | false =>
    rw [handle_eq hr]
    refine (react_stands h hr e).bind fun d' h' => ?_
    unfold conclude
    split
    · exact h'
    · exact (refresh_stands _ h').bind fun _ h'' => h''

lemma act_stands (h : d.Stands t id loaded) (s : Step) :
    (d.act s).Gives (Stands t id loaded) := by
  cases s with
  | tick now => exact tick_stands now h
  | handle e => exact (handle_stands h e).bind fun _ h' => h'
  | _ => exact Gives.after fun _ => h

/-! ### The start -/

/-- Joins the configured network. -/
def takeStation (d : Device) (now : Clock) : Program Hardware Device := do
  let (started, link) ← d.link.start d.timing d.config now
  let d := { d with link := link }
  if started then pure d else d.reboot .stationRefused

lemma startRole_setup (hc : d.hasConfig = false) : d.startRole now =
    Hardware.info (ascii "APP") (ascii "no config, device " ++ d.deviceId) >>= fun _ =>
      d.startSetup now := by
  unfold startRole
  rw [hc]
  rfl

lemma startRole_station (hc : d.hasConfig = true) (hcomplete : d.config.complete = true) :
    ∃ session : Session, d.session.SetUp session ∧ d.startRole now =
      Hardware.info (ascii "APP") (ascii "config loaded, device " ++ d.config.deviceId.view ++
        ascii " (" ++ d.config.deviceName.view ++ ascii ")") >>= fun _ =>
          takeStation { d with session := session } now := by
  obtain ⟨session, hconfigure, hsetup⟩ := d.session.configure_complete hcomplete
  refine ⟨session, hsetup, ?_⟩
  unfold startRole
  rw [hc, hconfigure]
  rfl

lemma startSetup_stands (ht : d.timing = t) (hid : d.deviceId = id) (hl : d.link.stopped = false)
    (hs : d.session.Open) (hc : d.hasConfig = loaded.isSome) (hconf : d.config = loaded.getD {}) :
    (d.startSetup now).Gives (Stands t id loaded) := by
  refine (Link.enterSetup_holding now hl).bind fun r hr => ?_
  dsimp only
  split
  · rename_i ho
    exact ⟨ht, hid, fun _ => hc, fun _ => hconf, fun _ => hs, fun _ => hr ho⟩
  · exact reboot_stands (d := { d with link := r.2 }) ht hid _

lemma takeStation_stands (ht : d.timing = t) (hid : d.deviceId = id) (hl : d.link.stopped = false)
    (hs : d.session.Open) (hc : d.hasConfig = loaded.isSome) (hconf : d.config = loaded.getD {}) :
    (d.takeStation now).Gives (Stands t id loaded) := by
  refine (Link.start_holding _ now hl _).bind fun r hr => ?_
  dsimp only
  split
  · rename_i ho
    exact ⟨ht, hid, fun _ => hc, fun _ => hconf, fun _ => hs, fun _ => hr ho⟩
  · exact reboot_stands (d := { d with link := r.2 }) ht hid _

/-- A configuration that is loaded is complete, so that it can be used. -/
lemma startFrom_stands (hloaded : ∀ c ∈ loaded, c.complete = true) (indicator : Indicator) :
    ((new t).startFrom now indicator id loaded).Gives (Stands t id loaded) := by
  refine Gives.after fun strike => Confined.bind ?_ fun d h => refresh_stands now h
  cases loaded with
  | none =>
    rw [startRole_setup now rfl]
    exact ⟨trivial, fun _ => startSetup_stands now rfl rfl rfl rfl rfl rfl⟩
  | some c =>
    obtain ⟨session, hsetup, hrole⟩ := startRole_station (d := { new t with
      now := now
      lastTick := now
      indicator := indicator
      deviceId := id
      config := c
      hasConfig := true
      strike := strike }) now rfl (hloaded c rfl)
    refine hrole ▸ ⟨trivial, fun _ => ?_⟩
    exact takeStation_stands now rfl rfl rfl hsetup.stopped rfl rfl

end Device

/-! ### What is loaded -/

lemma Record.complete_of_decode? {s : Bytes} {r : Config × UInt32} (h : decode? s = some r) :
    r.1.complete = true := by
  unfold decode? guard at h
  simp only [Option.bind_eq_bind, Option.bind_eq_some_iff] at h
  obtain ⟨_, -, _, -, x, -, y, -, _, hguard, hr⟩ := h
  obtain rfl := Option.some.inj hr
  by_contra hc
  rw [if_neg hc] at hguard
  cases hguard

namespace Store

lemma readSlot_complete (slot : Slot) :
    (readSlot slot).Gives fun r => ∀ x ∈ r, x.1.complete = true := by
  have hnone : ∀ x ∈ (none : Found), x.1.complete = true := nofun
  refine ⟨trivial, fun n => ?_⟩
  change (ite _ _ _ : Program Hardware Found).Confined _ _
  split
  · exact hnone
  split
  · exact ⟨trivial, fun _ => hnone⟩
  refine ⟨trivial, fun value => ?_⟩
  change (ite _ _ _ : Program Hardware Found).Confined _ _
  split
  · exact ⟨trivial, fun _ => hnone⟩
  cases hd : Record.decode? value with
  | none => exact ⟨trivial, fun _ => hnone⟩
  | some found =>
    intro x hx
    obtain rfl := Option.some.inj hx
    exact Record.complete_of_decode? hd

lemma load_complete : load.Gives fun r => ∀ c ∈ r, c.complete = true := by
  refine (readSlot_complete .a).bind fun a ha => (readSlot_complete .b).bind fun b hb c hc => ?_
  obtain ⟨x, hx, rfl⟩ := Option.map_eq_some_iff.1 hc
  rcases newest?_eq_some hx with ⟨-, h⟩ | ⟨-, h⟩
  · exact ha x.2 h
  · exact hb x.2 h

end Store

namespace Life

/-- What stands of a device with the exchanges since its start. -/
structure Standing (t : Timing) (l : Life) (h : List (Exchange Hardware)) : Prop where
  device : l.device.Stands t l.device.deviceId l.loaded
  /-- The identity is the one that the hardware gave. -/
  identity : ⟨.deviceId 16, l.device.deviceId⟩ ∈ h

lemma begin_standing (t : Timing) (now : Clock) :
    (begin t now).Ensures (.history Hardware) (Standing t) [] := by
  refine ((gives_true _).ensures (K := fun _ => True) (fun _ _ _ _ _ _ => id) trivial).bind ?_
  rintro indicator h - id _ rfl _ _ rfl
  have hid : ⟨.deviceId 16, id⟩ ∈ (⟨.pinInput Pin.button, ()⟩ :: ⟨.deviceId 16, id⟩ :: h :
      List (Exchange Hardware)) := List.mem_cons_of_mem _ List.mem_cons_self
  refine (Store.load_complete.remembers hid).bind ?_
  rintro loaded h' ⟨hloaded, hid⟩
  refine ((Device.startFrom_stands now hloaded indicator).remembers hid).bind ?_
  rintro d h'' ⟨hd, hid⟩
  obtain rfl := hd.deviceId
  exact ⟨hd, hid⟩

lemma Standing.step {t : Timing} {l : Life} {h : List (Exchange Hardware)} (hl : l.Standing t h)
    (s : Device.Step) : (l.step s).Ensures (.history Hardware) (Standing t) h := by
  refine ((Device.act_stands hl.device s).remembers hl.identity).bind ?_
  rintro d h' ⟨hd, hid⟩
  rw [← hd.deviceId] at hid
  exact ⟨hd.deviceId ▸ hd, hid⟩

lemma run_standing (t : Timing) (now : Clock) (steps : List Device.Step) :
    (do (← begin t now).run steps).Ensures (.history Hardware) (Standing t) [] := by
  refine (begin_standing t now).bind fun l h hl => ?_
  exact run_ensures (fun l s h hl => hl.step s) steps hl

end Life

end DoorControl
