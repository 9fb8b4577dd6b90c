import DoorControl.Proofs.Config.ShortReads
import DoorControl.Proofs.Device.Eligibility
import DoorControl.Proofs.Session.Wording

/-!
A stored configuration can be used: a device that loads one is set up with all of it, says nothing
to the transport but what that comes to, and never opens a network of its own.
-/

namespace DoorControl

open Bytes Program

/-! ### The link -/

namespace Link

/-- The calls of a link that opens no network. -/
def Joins : Hardware.Call → Prop
  | .startAccessPoint _ _ | .request _ => False
  | _ => True

variable {s : Link} (t : Timing) (now : Clock)

lemma transition_joins (s : Link) {next : LinkState} (hn : next ≠ .setupMode) :
    (s.transition next now).Confined Joins (·.state ≠ .setupMode) := by
  unfold transition
  split
  · rename_i he
    exact (he ▸ hn : s.state ≠ .setupMode)
  · exact (Hardware.postOrWarn_confined _ trivial fun _ => trivial).bind fun _ _ => hn

lemma fail_joins (s : Link) (why : Failure) :
    (s.fail t now why).Confined Joins (·.state ≠ .setupMode) :=
  ⟨trivial, fun _ => ⟨trivial, fun _ => transition_joins now _ nofun⟩⟩

lemma connect_joins (s : Link) : (s.connect t now).Confined Joins (·.state ≠ .setupMode) := by
  have hnext : LinkState.connecting ≠ .setupMode := nofun
  refine (transition_joins now _ hnext).bind fun s' h' => ⟨trivial, fun taken => ?_⟩
  cases taken with
  | true => exact ⟨trivial, fun _ => h'⟩
  | false => exact fail_joins t now s' _

lemma start_joins (h : s.state ≠ .setupMode) (c : Config) :
    (s.start t c now).Confined Joins (·.2.state ≠ .setupMode) := by
  unfold start
  split
  · exact ⟨trivial, fun _ => h⟩
  · exact (connect_joins t now _).bind fun _ h' => h'

lemma update_joins (h : s.state ≠ .setupMode) :
    (s.update t now).Confined Joins (·.state ≠ .setupMode) := by
  unfold update
  split
  · exact h
  cases hs : s.state with
  | connecting =>
    refine ⟨trivial, fun status => ?_⟩
    cases status with
    | up => exact ⟨trivial, fun _ => transition_joins now _ nofun⟩
    | failed => exact fail_joins t now s _
    | down =>
      change (ite _ _ _ : Program Hardware Link).Confined _ _
      split
      · exact fail_joins t now s _
      · exact h
  | connected =>
    refine ⟨trivial, fun status => ?_⟩
    change (ite _ _ _ : Program Hardware Link).Confined _ _
    split
    · exact h
    · exact ⟨trivial, fun _ => ⟨trivial, fun _ => transition_joins now _ nofun⟩⟩
  | disconnected => simp [connect_joins t now s, h]
  | uninitialized => exact h
  | setupMode => exact absurd hs h

end Link

/-! ### The device -/

namespace Device

/-- The calls of a device that opens no network and keeps to a wording. -/
def Bound (w : Wording) : Hardware.Call → Prop
  | .startAccessPoint _ _ => False
  | .request r => w.Covers r
  | _ => True

/-- A device that is set up with a wording, and not in setup mode. -/
structure Equipped (w : Wording) (d : Device) : Prop where
  session : d.session.wording = w
  link : d.link.state ≠ .setupMode

variable {w : Wording} {d d' : Device} (now : Clock)

lemma bound_of_plain (c : Hardware.Call) (hc : Plain c) : Bound w c := by
  cases c <;> first | exact hc.elim | trivial

lemma bound_of_utters (c : Hardware.Call) (hc : Session.Utters w c) : Bound w c := by
  cases c <;> first | exact hc | exact hc.elim

lemma bound_of_joins (c : Hardware.Call) (hc : Link.Joins c) : Bound w c := by
  cases c <;> first | exact hc.elim | trivial

lemma Equipped.of_eq (h : d.Equipped w) (hd : d'.link = d.link ∧ d'.session = d.session) :
    d'.Equipped w :=
  ⟨by rw [hd.2, h.session], by rw [hd.1]; exact h.link⟩

lemma reboot_equipped (h : d.Equipped w) (why : RebootReason) :
    (d.reboot why).Confined (Bound w) (Equipped w) :=
  (d.reboot_plain why).mono bound_of_plain fun _ => h.of_eq

lemma refresh_equipped (h : d.Equipped w) : (d.refresh now).Confined (Bound w) (Equipped w) :=
  (refresh_plain now d).mono bound_of_plain fun _ => h.of_eq

lemma goOffline_equipped (h : d.Equipped w) : d.goOffline.Confined (Bound w) (Equipped w) := by
  refine (Session.shutdown_utters d.timing h.session).within bound_of_utters fun session hs => ?_
  refine (linkShutdown_plain d.link).within bound_of_plain fun link hl => ⟨hs, ?_⟩
  rw [hl]
  exact h.link

lemma publishState_equipped (h : d.Equipped w) : d.publishState.Confined (Bound w) (Equipped w) :=
  (Session.publish_utters h.session _ _).within bound_of_utters fun _ hs => ⟨hs, h.link⟩

lemma commandLock_equipped (h : d.Equipped w) (arg : UInt8) :
    (d.commandLock arg).Confined (Bound w) (Equipped w) := by
  unfold commandLock
  split
  · exact ⟨trivial, fun _ => h⟩
  · exact (set_plain d.now d.strike _).within bound_of_plain fun _ _ => ⟨h.session, h.link⟩

lemma factoryReset_equipped (h : d.Equipped w) (source : UInt8) :
    (d.factoryReset source).Confined (Bound w) (Equipped w) := by
  refine ⟨trivial, fun _ => (goOffline_equipped h).bind fun d' h' => ?_⟩
  refine ((eraseWithin_confined _ _).mono plain_of_store fun _ => id).within bound_of_plain
    fun erased _ => ?_
  have hreboot : (reboot { d' with hasConfig := false } .factoryReset).Confined (Bound w)
      (Equipped w) :=
    reboot_equipped (d := { d' with hasConfig := false }) (h'.of_eq ⟨rfl, rfl⟩) _
  cases erased with
  | true => exact hreboot
  | false => exact ⟨trivial, fun _ => hreboot⟩

lemma applySubmission_equipped (h : d.Equipped w) :
    d.applySubmission.Confined (Bound w) (Equipped w) := by
  refine ⟨trivial, fun offered => ?_⟩
  cases offered with
  | none => exact ⟨trivial, fun _ => h⟩
  | some s =>
    change (ite _ _ _ : Program Hardware Device).Confined _ _
    split
    · exact ⟨trivial, fun _ => h⟩
    refine ((Store.save_confined _).mono plain_of_store fun _ => id).within bound_of_plain
      fun e _ => ?_
    cases e with
    | some e => exact ⟨trivial, fun _ => h⟩
    | none => exact (goOffline_equipped h).bind fun d' h' => reboot_equipped h' _

lemma react_equipped (h : d.Equipped w) (e : Event) :
    (d.react e).Confined (Bound w) (Equipped w) := by
  unfold react
  cases e.kind with
  | doorChanged => exact ⟨trivial, fun _ => publishState_equipped (h.of_eq ⟨rfl, rfl⟩)⟩
  | lockChanged => exact ⟨trivial, fun _ => publishState_equipped h⟩
  | lockCommand => exact commandLock_equipped h _
  | externalLockCommand => exact commandLock_equipped h _
  | resetRequested => exact factoryReset_equipped h _
  | configSubmitted => exact applySubmission_equipped h
  | linkChanged => exact ⟨trivial, fun _ => h⟩
  | sessionChanged => exact ⟨trivial, fun _ => h⟩
  | unknown _ => exact h
  | _ =>
    exact (Session.handle_utters d.timing d.now h.session e).within bound_of_utters
      fun _ hs => ⟨hs, h.link⟩

lemma handle_equipped (h : d.Equipped w) (e : Event) :
    (d.handle e).Confined (Bound w) (·.2.Equipped w) := by
  cases hr : d.rebootPending with
  | true =>
    rw [handle_pending hr]
    exact h
  | false =>
    rw [handle_eq hr]
    refine (react_equipped h e).bind fun d' h' => ?_
    unfold conclude
    split
    · exact h'
    · exact (refresh_equipped _ h').bind fun _ h'' => h''

lemma tick_equipped (h : d.Equipped w) : (d.tick now).Confined (Bound w) (Equipped w) := by
  cases hr : d.rebootPending with
  | true =>
    rw [tick_pending now hr]
    exact h
  | false =>
    rw [tick_eq now hr]
    refine (sample_plain now d.strike).within bound_of_plain fun strike _ => ⟨trivial, fun _ => ?_⟩
    refine ((d.button.tick_confined _ _ now).mono plain_of_button fun _ => id).within bound_of_plain
      fun button _ => ?_
    refine (Link.update_joins d.timing now h.link).within bound_of_joins fun link hl => ?_
    refine (Session.update_utters d.timing now h.session _).within bound_of_utters fun session hs => ?_
    refine ((d.indicator.update_confined d.timing now).mono plain_of_indicator
      fun _ => id).within bound_of_plain fun indicator _ => ?_
    exact ⟨hs, hl⟩

lemma act_equipped (h : d.Equipped w) (s : Step) : (d.act s).Confined (Bound w) (Equipped w) := by
  cases s with
  | tick now => exact tick_equipped now h
  | handle e => exact (handle_equipped h e).bind fun _ h' => h'
  | requestLock l now => exact ⟨trivial, fun _ => h⟩
  | submit s now =>
    refine ⟨trivial, fun ok => ?_⟩
    cases ok with
    | true => exact ⟨trivial, fun _ => h⟩
    | false => exact h
  | requestReset now => exact ⟨trivial, fun _ => h⟩

/-! ### The start -/

lemma takeStation_equipped (h : d.Equipped w) :
    (d.takeStation now).Confined (Bound w) (Equipped w) := by
  refine (Link.start_joins d.timing now h.link d.config).within bound_of_joins fun r hl => ?_
  have hd : { d with link := r.2 }.Equipped w := ⟨h.session, hl⟩
  dsimp only
  split
  · exact hd
  · exact reboot_equipped hd _

lemma startRole_equipped {c : Config} (hc : d.hasConfig = true) (hconfig : d.config = c)
    (hcomplete : c.complete = true) (hl : d.link.state ≠ .setupMode) :
    (d.startRole now).Confined (Bound c.wording) (Equipped c.wording) := by
  subst hconfig
  obtain ⟨session, hconfigure, -, hsession⟩ := d.session.configure_wording hcomplete
  have hrole : d.startRole now =
      Hardware.info (ascii "APP") (ascii "config loaded, device " ++ d.config.deviceId.view ++
        ascii " (" ++ d.config.deviceName.view ++ ascii ")") >>= fun _ =>
          takeStation { d with session := session } now := by
    unfold startRole
    rw [hc, hconfigure]
    rfl
  rw [hrole]
  exact ⟨trivial, fun _ => takeStation_equipped now ⟨hsession, hl⟩⟩

lemma startFrom_equipped {c : Config} (hc : c.complete = true) (t : Timing) (indicator : Indicator)
    (id : Bytes) : ((new t).startFrom now indicator id (some c)).Confined (Bound c.wording)
      (Equipped c.wording) := by
  refine (strikeStart_plain now _ _).within bound_of_plain fun strike _ => ?_
  refine Confined.bind ?_ fun d h => refresh_equipped now h
  exact startRole_equipped now rfl rfl hc nofun

end Device

/-! ### The life of a device -/

namespace Life

open Device

/-- A life in which the configuration that was loaded is in use. -/
def InUse (l : Life) (h : List (Exchange Hardware)) : Prop :=
  ∀ c, l.loaded = some c → l.device.Equipped c.wording ∧ ∀ x ∈ h, Bound c.wording x.call

lemma begin_inUse (t : Timing) (now : Clock) :
    (begin t now).Ensures (.history Hardware) InUse [] := by
  have hlight := ((new t).indicator.start_confined now).mono plain_of_indicator fun _ => id
  refine (hlight.calls (h := []) nofun).bind ?_
  rintro indicator h ⟨-, hh⟩ id _ rfl _ _ rfl
  have hload := (Store.load_confined.and Store.load_complete).mono
    (fun c hc => plain_of_store c hc.1) fun _ hr => hr.2
  refine (hload.calls ?_).bind ?_
  · exact List.forall_mem_cons.2 ⟨trivial, List.forall_mem_cons.2 ⟨trivial, hh⟩⟩
  rintro loaded h ⟨hloaded, hh⟩
  cases loaded with
  | none => exact (ensures_true _ h).bind fun _ _ _ _ => nofun
  | some c =>
    have hstart := startFrom_equipped now (hloaded c rfl) t indicator id
    refine (hstart.calls fun x hx => bound_of_plain x.call (hh x hx)).bind ?_
    intro d h' hd c' hc
    obtain rfl := Option.some.inj hc
    exact hd

lemma InUse.step {l : Life} {h : List (Exchange Hardware)} (hl : l.InUse h) (s : Device.Step) :
    (l.step s).Ensures (.history Hardware) InUse h := by
  cases hloaded : l.loaded with
  | none =>
    refine (ensures_true _ h).bind fun d h' _ c hc => ?_
    exact absurd (hloaded.symm.trans hc) nofun
  | some c =>
    obtain ⟨hd, hh⟩ := hl c hloaded
    refine ((act_equipped hd s).calls hh).bind fun d h' hd c' hc => ?_
    obtain rfl := Option.some.inj (hloaded.symm.trans hc)
    exact hd

lemma run_inUse (t : Timing) (now : Clock) (steps : List Device.Step) :
    (do (← begin t now).run steps).Ensures (.history Hardware) InUse [] :=
  (begin_inUse t now).bind fun _ _ hl => run_ensures (fun _ s _ hl => hl.step s) steps hl

/-- The device serves a configuration: it is not in setup mode and opened no network of its own, and
whatever it says to the transport is of the wording of the configuration. -/
structure Serves (c : Config) (l : Life) (h : List (Exchange Hardware)) : Prop where
  inSetup : l.device.inSetup = false
  network : ∀ x ∈ h, ∀ ssid pass, x.call ≠ .startAccessPoint ssid pass
  connect : ∀ x ∈ h, ∀ r, x.call = .request (.connect r) →
    r = { c.wording.connection with generation := r.generation }
  request : ∀ x ∈ h, ∀ r, x.call = .request r → c.wording.Covers r

lemma InUse.serves {l : Life} {h : List (Exchange Hardware)} (hl : l.InUse h) {c : Config}
    (hc : l.loaded = some c) : l.Serves c h := by
  obtain ⟨hd, hh⟩ := hl c hc
  constructor
  case inSetup => exact beq_eq_false_iff_ne.2 hd.link
  case network =>
    intro x hx ssid pass hcall
    have hbound := hh x hx
    rwa [hcall] at hbound
  case connect =>
    intro x hx r hcall
    have hbound := hh x hx
    rw [hcall] at hbound
    exact hbound.connect
  case request =>
    intro x hx r hcall
    have hbound := hh x hx
    rwa [hcall] at hbound

/-- **A stored configuration is usable**: with every configuration that a record holds, a session is
set up, and all that it says of it is in full and fits. A device that loads it is never in setup
mode and opens no network of its own, whatever happens to it until it restarts, and what it hands to
the transport is all in that wording. -/
theorem stored_configuration_usable {s : Bytes} {c : Config} {seq : UInt32}
    (h : Record.decode? s = some (c, seq)) (session : Session) (t : Timing) (now : Clock)
    (steps : List Device.Step) :
    (∃ session', session.configure c = pure (true, session') ∧ session'.configured = true ∧
      session'.wording = c.wording) ∧
    c.wording.Fits ∧
    (do (← begin t now).run steps).Ensures (.history Hardware)
      (fun (l : Life) h => l.loaded = some c → l.Serves c h) [] := by
  have hc := Record.complete_of_decode? h
  exact ⟨session.configure_wording hc, Config.wording_fits hc,
    (run_inUse t now steps).mono fun l h hl => hl.serves⟩

/-- A record of a device with a quote in its name. -/
theorem quoted_name_usable :
    let c := (Store.named (ascii "Anna\"s door")).normal
    Record.decode? (Record.encode (Store.named (ascii "Anna\"s door")) 1) = some (c, 1) ∧
    (∃ session', ({} : Session).configure c = pure (true, session') ∧
      session'.configured = true ∧ session'.wording = c.wording) ∧
    c.wording.Fits ∧
    (do (← begin {} 0).run [.tick 10]).Ensures (.history Hardware)
      (fun (l : Life) h => l.loaded = some c → l.Serves c h) [] := by
  intro c
  have hc : (Store.named (ascii "Anna\"s door")).complete = true := by decide +kernel
  have h := Record.decode?_encode_complete hc 1
  exact ⟨h, stored_configuration_usable h {} {} 0 [.tick 10]⟩

end Life

end DoorControl
