import DoorControl.Proofs.Device.Standing

/-!
What a device asks for while its link is in a state: the broker is spoken to over a connected link
only, but for the leave that is taken when the link is gone, and the radio takes no other role than
the one that goes with the configuration. The link is in the state that it reported last.
-/

namespace DoorControl

open Bytes Program

/-! ### What is permitted -/

namespace Link

/-- The link state that an exchange reports. -/
def report? (x : Exchange Hardware) : Option LinkState :=
  match x.call with
  | .post e => if e.kind = .linkChanged then LinkState.ofCode? e.arg else none
  | _ => none

/-- The link state reported last, whether the queue took the report or not. -/
def reported (h : List (Exchange Hardware)) : LinkState :=
  (h.findSome? report?).getD .uninitialized

end Link

/-- A request by which leave is taken of the broker. -/
def Request.Farewell (t : Topics) (r : Request) : Prop :=
  r = .publish r.generation t.availability Session.offline true ∨ r = .disconnect r.generation

/-- Nothing that is said before the leave is mistaken for it. -/
lemma Wording.not_farewell {w : Wording} (hw : w.Distinct) {g : UInt8}
    {reports : List (LockState × DoorState)} {r : Request} (hr : r ∈ w.opening g reports) :
    ¬r.Farewell w.topics := by
  have hpayload : Session.online ≠ Session.offline := by decide
  simp only [opening, announcement, List.mem_append, List.mem_cons, List.not_mem_nil, or_false,
    List.mem_map] at hr
  rcases hr with (rfl | rfl | rfl | rfl) | ⟨x, -, rfl⟩
  · simp [Request.Farewell, connect]
  · simp [Request.Farewell, hw.availability]
  · simp [Request.Farewell, hpayload]
  · simp [Request.Farewell]
  · simp [Request.Farewell, report, hw.state.availability.symm]

namespace Device

/-- What a device that found `loaded` when it started may ask for while its link is in a state. -/
def Permits (loaded : Option Config) (t : Topics) (l : LinkState) : Hardware.Call → Prop
  | .startAccessPoint _ _ => loaded = none
  | .startStation _ _ => loaded ≠ none
  | .request r => loaded ≠ none ∧ (l = .connected ∨ r.Farewell t)
  | _ => True

/-- At every moment nothing was asked for but what was permitted in the link state of then. -/
def Heeds (loaded : Option Config) (t : Topics) (h : List (Exchange Hardware)) : Prop :=
  ∀ x past, x :: past <:+ h → Permits loaded t (Link.reported past) x.call

/-- A history that has the link in a state by now. -/
structure Abides (loaded : Option Config) (t : Topics) (l : LinkState)
    (h : List (Exchange Hardware)) : Prop where
  reported : Link.reported h = l
  heeds : Heeds loaded t h

/-- What is permitted to the other parts while the link is in a state. -/
def Apart (loaded : Option Config) (t : Topics) (l : LinkState) : Hardware.Call → Prop
  | .startAccessPoint _ _ | .startStation _ _ => False
  | .request r => loaded ≠ none ∧ (l = .connected ∨ r.Farewell t)
  | .post e => e.kind ≠ .linkChanged
  | _ => True

variable {loaded : Option Config} {t : Topics} {l : LinkState} {h : List (Exchange Hardware)}

namespace Abides

lemma nil : Abides loaded t .uninitialized [] where
  reported := rfl
  heeds x past hp := by simp at hp

lemma cons (ha : Abides loaded t l h) (c : Hardware.Call) (r : Hardware.Answer c) {l' : LinkState}
    (hc : Permits loaded t l c) (hl : (Link.report? ⟨c, r⟩).getD l = l') :
    Abides loaded t l' (⟨c, r⟩ :: h) where
  reported := by
    rw [← hl, ← ha.reported, Link.reported, List.findSome?_cons]
    cases Link.report? ⟨c, r⟩ <;> rfl
  heeds x past hp := by
    rcases List.suffix_cons_iff.1 hp with he | hp
    · obtain ⟨rfl, rfl⟩ := List.cons.inj he
      rw [ha.reported]
      exact hc
    · exact ha.heeds x past hp

lemma apart (ha : Abides loaded t l h) (c : Hardware.Call) (r : Hardware.Answer c)
    (hc : Apart loaded t l c) : Abides loaded t l (⟨c, r⟩ :: h) := by
  cases c with
  | startAccessPoint => exact hc.elim
  | startStation => exact hc.elim
  | request q => exact ha.cons _ r hc rfl
  | post e => exact ha.cons _ r trivial (by simp [Link.report?, show e.kind ≠ .linkChanged from hc])
  | _ => exact ha.cons _ r trivial rfl

lemma ensures (ha : Abides loaded t l h) {α : Type} {p : Program Hardware α} {post : α → Prop}
    (hp : p.Confined (Apart loaded t l) post) :
    p.Ensures (.history Hardware) (fun a h' => post a ∧ Abides loaded t l h') h := by
  refine hp.ensures ?_ ha
  rintro c h r _ hc rfl ha
  exact ha.apart c r hc

end Abides

end Device

/-! ### The link -/

namespace Link

open Device

variable {loaded : Option Config} {topics : Topics} {s : Link} {h : List (Exchange Hardware)}
  (t : Timing) (now : Clock)

lemma transition_abides (ha : Abides loaded topics s.state h) (next : LinkState) :
    (s.transition next now).Ensures (.history Hardware)
      (fun s' h' => s' = { s with state := next } ∧ Abides loaded topics next h') h := by
  unfold transition
  split
  · rename_i he
    subst he
    exact ⟨rfl, ha⟩
  · rintro ok _ rfl
    have hreport : Abides loaded topics next (⟨.post
        { kind := .linkChanged, time := now, arg := next.code }, ok⟩ :: h) :=
      ha.cons (.post _) ok trivial (by simp [report?, LinkState.ofCode?_code])
    cases ok with
    | true => exact ⟨rfl, hreport⟩
    | false =>
      rintro _ _ rfl
      exact ⟨rfl, hreport.apart (.log _) () trivial⟩

/-- The state of a link is the one that the history has it in. -/
abbrev Tracked (loaded : Option Config) (topics : Topics) (s : Link)
    (h : List (Exchange Hardware)) : Prop :=
  Abides loaded topics s.state h

lemma transition_tracked (ha : Abides loaded topics s.state h) (next : LinkState) :
    (s.transition next now).Ensures (.history Hardware) (Tracked loaded topics) h := by
  refine (transition_abides now ha next).mono ?_
  rintro _ h' ⟨rfl, ha'⟩
  exact ha'

lemma fail_tracked (ha : Abides loaded topics s.state h) (why : Failure) :
    (s.fail t now why).Ensures (.history Hardware) (Tracked loaded topics) h := by
  rintro _ _ rfl _ _ rfl
  refine transition_tracked now ?_ .disconnected
  exact (ha.apart .stopRadio () trivial).apart (.log _) () trivial

lemma connect_tracked (hl : loaded ≠ none) (ha : Abides loaded topics s.state h) :
    (s.connect t now).Ensures (.history Hardware) (Tracked loaded topics) h := by
  refine (transition_abides (s := { s with startedAt := now }) now ha .connecting).bind ?_
  rintro _ h' ⟨rfl, ha'⟩ ok _ rfl
  have hasked : Abides loaded topics .connecting (⟨.startStation s.ssid s.pass, ok⟩ :: h') :=
    ha'.cons (.startStation s.ssid s.pass) ok hl rfl
  cases ok with
  | true =>
    rintro _ _ rfl
    exact hasked.apart (.log _) () trivial
  | false => exact fail_tracked t now hasked .refused

lemma update_tracked (hl : loaded ≠ none) (ha : Abides loaded topics s.state h) :
    (s.update t now).Ensures (.history Hardware) (Tracked loaded topics) h := by
  unfold update
  split
  · exact ha
  cases hs : s.state with
  | connecting =>
    rintro r _ rfl
    have hasked := ha.apart .radioStatus r trivial
    cases r with
    | up =>
      rintro _ _ rfl
      refine transition_tracked (s := { s with failures := 0 }) now ?_ .connected
      exact hasked.apart (.log _) () trivial
    | failed => exact fail_tracked t now hasked .association
    | down =>
      change (ite _ _ _ : Program Hardware Link).Ensures _ _ _
      split
      · exact fail_tracked t now hasked .timeout
      · exact hasked
  | connected =>
    rintro r _ rfl
    have hasked := ha.apart .radioStatus r trivial
    change (ite _ _ _ : Program Hardware Link).Ensures _ _ _
    split
    · exact hasked
    · rintro _ _ rfl _ _ rfl
      refine transition_tracked now ?_ .disconnected
      exact (hasked.apart .stopRadio () trivial).apart (.log _) () trivial
  | disconnected =>
    change (ite _ _ _ : Program Hardware Link).Ensures _ _ _
    split
    · exact connect_tracked t now hl ha
    · exact ha
  | uninitialized => exact ha
  | setupMode => exact ha

/-- A link that is not to be a station. -/
def Settled (s : Link) : Prop := s.state = .uninitialized ∨ s.state = .setupMode

lemma update_settled (hs : s.Settled) : s.update t now = pure s := by
  unfold update
  split
  · rfl
  · rcases hs with hs | hs <;> rw [hs]

lemma start_tracked (hl : loaded ≠ none) (ha : Abides loaded topics s.state h) (c : Config) :
    (s.start t c now).Ensures (.history Hardware)
      (fun r h' => Tracked loaded topics r.2 h') h := by
  unfold start
  split
  · rintro _ _ rfl
    exact ha.apart (.log _) () trivial
  · exact (connect_tracked t now hl (by exact ha)).bind fun _ _ ha' => ha'

lemma enterSetup_tracked (hl : loaded = none) (hs : s.Settled)
    (ha : Abides loaded topics s.state h) : (s.enterSetup now).Ensures (.history Hardware)
      (fun r h' => r.2.Settled ∧ Tracked loaded topics r.2 h') h := by
  unfold enterSetup
  split
  · rintro _ _ rfl
    exact ⟨hs, ha.apart (.log _) () trivial⟩
  · rintro ok _ rfl
    have hasked : Abides loaded topics s.state (⟨.startAccessPoint setupSsid setupPass, ok⟩ :: h) :=
      ha.cons (.startAccessPoint setupSsid setupPass) ok hl rfl
    cases ok with
    | true =>
      refine (transition_abides now hasked .setupMode).bind ?_
      rintro _ h' ⟨rfl, ha'⟩
      exact ⟨.inr rfl, ha'⟩
    | false =>
      rintro _ _ rfl
      exact ⟨hs, hasked.apart (.log _) () trivial⟩

end Link

/-! ### The session -/

namespace Session

open Device

variable {loaded : Option Config} {topics : Topics} {l : LinkState} {s : Session}
  (t : Timing) (now : Clock)

/-- A session that there may be while the link is in a state: idle without a connected link. -/
def Eligible (l : LinkState) (s : Session) : Prop := s.state ≠ .idle → l = .connected

/-- What a session is still set up with after it did something. -/
def SameSetup (s s' : Session) : Prop := s'.configured = s.configured ∧ s'.topics = s.topics

lemma sameSetup_of_standing {s' : Session} (hs : s'.standing = s.standing) : s.SameSetup s' := by
  simp only [standing, Prod.mk.injEq] at hs
  exact ⟨hs.1, hs.2.2⟩

/-- Over a connected link a session may say anything. -/
lemma apart_of_asks (hl : loaded ≠ none) (c : Hardware.Call) (hc : Asks c) :
    Apart loaded topics .connected c := by
  cases c with
  | request r => exact ⟨hl, .inl rfl⟩
  | post e => rcases hc with hk | hk <;> simp [Apart, hk]
  | _ => trivial

/-- What a session does that does nothing while it is idle needs a connected link. -/
lemma apart_of_idle {p : Program Hardware Session} (hl : l = .connected → loaded ≠ none)
    (hs : s.Eligible l) (hp : p.Confined Asks fun _ => True)
    (hstanding : p.Gives (·.standing = s.standing))
    (hidle : s.state = .idle → ∃ s', p = pure s' ∧ s'.state = .idle) :
    p.Confined (Apart loaded topics l) fun s' => s'.Eligible l ∧ s.SameSetup s' := by
  by_cases hup : l = .connected
  · subst hup
    refine (hp.and hstanding).mono (fun c hc => apart_of_asks (hl rfl) c hc.1) ?_
    rintro s' ⟨-, hs'⟩
    exact ⟨fun _ => rfl, sameSetup_of_standing hs'⟩
  · have hi : s.state = .idle := by
      by_contra hn
      exact hup (hs hn)
    obtain ⟨s', rfl, hs'⟩ := hidle hi
    exact ⟨fun hn => absurd hs' hn, sameSetup_of_standing hstanding⟩

lemma handle_idle (hs : s.state = .idle) (e : Event) : s.handle t e now = pure s := by
  unfold handle
  split
  · rfl
  split
  · rfl
  · cases e.kind <;> simp [hs, SessionState.announced, SessionState.active]

lemma handle_apart (hl : l = .connected → loaded ≠ none) (hs : s.Eligible l) (e : Event) :
    (s.handle t e now).Confined (Apart loaded topics l) fun s' => s'.Eligible l ∧ s.SameSetup s' :=
  apart_of_idle hl hs ((handle_confined t now rfl e).mono (fun _ => id) fun _ _ => trivial)
    (handle_standing t now rfl e) fun hi => ⟨s, handle_idle t now hi e, hi⟩

lemma publish_apart (hl : l = .connected → loaded ≠ none) (hs : s.Eligible l) (lock : LockState)
    (door : DoorState) : (s.publish lock door).Confined (Apart loaded topics l) fun s' =>
      s'.Eligible l ∧ s.SameSetup s' := by
  refine apart_of_idle hl hs ((s.publish_confined lock door).mono (fun _ => id) fun _ _ => trivial)
    (publish_standing rfl lock door) fun hi =>
      ⟨{ s with lock := lock, door := door, dirty := true }, ?_, hi⟩
  unfold publish
  rw [if_neg (by simp [hi])]

lemma teardown_apart (s : Session) (hl : loaded ≠ none) :
    s.teardown.Confined (Apart loaded s.topics l) fun _ => True := by
  simp [teardown, Apart, hl, Request.Farewell, Request.generation]

lemma shutdown_apart (hl : l = .connected → loaded ≠ none) (hs : s.Eligible l) :
    (s.shutdown t).Confined (Apart loaded s.topics l) fun s' =>
      s'.Eligible l ∧ s.SameSetup s' := by
  unfold shutdown
  split
  · exact ⟨hs, rfl, rfl⟩
  by_cases hi : s.state = .idle
  · simp [teardown, hi, SessionState.announced, SessionState.active, Eligible, SameSetup]
  · refine (s.teardown_apart (hl (hs hi))).bind fun _ _ => ?_
    split
    · refine ⟨trivial, fun ok => ?_⟩
      cases ok with
      | true => exact ⟨hs, rfl, rfl⟩
      | false => exact ⟨trivial, fun _ => ⟨hs, rfl, rfl⟩⟩
    · exact ⟨hs, rfl, rfl⟩

/-- Time passes for a session while the link is in a state. One that is not idle was set up and is
open. -/
lemma update_apart (hl : l = .connected → loaded ≠ none)
    (hs : s.state ≠ .idle → loaded ≠ none ∧ s.configured = true ∧ s.Open) :
    (s.update t (l == .connected) now).Confined (Apart loaded s.topics l) fun s' =>
      s'.Eligible l ∧ s.SameSetup s' := by
  by_cases hup : l = .connected
  · subst hup
    refine ((update_confined t now rfl _).and (update_standing t now rfl _)).mono
      (fun c hc => apart_of_asks (hl rfl) c hc.1) ?_
    rintro s' ⟨-, hs'⟩
    exact ⟨fun _ => rfl, sameSetup_of_standing hs'⟩
  have hdown : (l == .connected) = false := by simpa using hup
  rw [hdown]
  by_cases hi : s.state = .idle
  · have hpure : s.update t false now = pure s := by simp [update, hi]
    rw [hpure]
    exact ⟨fun hn => absurd hi hn, rfl, rfl⟩
  · obtain ⟨hloaded, hc, ho⟩ := hs hi
    have hleave : s.update t false now = s.teardown >>= fun _ => s.transition .idle now := by
      unfold update
      rw [if_neg (by simp [hc, show s.stopped = false from ho]), if_pos (by rfl), if_neg hi]
    rw [hleave]
    refine (s.teardown_apart hloaded).bind fun _ _ => ?_
    unfold transition
    rw [if_neg (Ne.symm hi)]
    refine (Hardware.postOrWarn_confined _ ?_ fun _ => trivial).bind fun _ _ => ?_
    · exact (nofun : EventKind.sessionChanged ≠ .linkChanged)
    · exact ⟨fun hn => absurd rfl hn, rfl, rfl⟩

end Session

/-! ### The device -/

namespace Device

/-- What holds of a device, with the exchanges since its start. -/
structure Gated (loaded : Option Config) (d : Device) (h : List (Exchange Hardware)) : Prop where
  abides : Abides loaded d.session.topics d.link.state h
  session : d.session.Eligible d.link.state
  configured : loaded ≠ none → d.session.configured = true ∧ d.session.wording.Distinct
  settled : loaded = none → d.link.Settled

/-- What is left of the link and the session once a device did something that is not the business
of its link. -/
structure Beside (d d' : Device) : Prop where
  link : d'.link.state = d.link.state
  session : d'.session.Eligible d.link.state
  setup : d.session.SameSetup d'.session

variable {loaded : Option Config} {d d' : Device} {h : List (Exchange Hardware)} (now : Clock)

lemma Gated.station (hg : d.Gated loaded h) (hup : d.link.state = .connected) : loaded ≠ none := by
  intro hl
  rcases hg.settled hl with hs | hs <;> rw [hup] at hs <;> cases hs

lemma Gated.next (hg : d.Gated loaded h) {h' : List (Exchange Hardware)}
    (hsetup : d.session.SameSetup d'.session) (hs : d'.session.Eligible d'.link.state)
    (hsettled : loaded = none → d'.link.Settled)
    (ha : Abides loaded d.session.topics d'.link.state h') : d'.Gated loaded h' where
  abides := by
    rw [hsetup.2]
    exact ha
  session := hs
  configured hl := by
    obtain ⟨hc, hw⟩ := hg.configured hl
    have htopics : d'.session.wording.topics = d.session.wording.topics := hsetup.2
    exact ⟨hsetup.1.trans hc, htopics ▸ hw.state, htopics ▸ hw.availability⟩
  settled := hsettled

lemma Gated.beside (hg : d.Gated loaded h) {h' : List (Exchange Hardware)} (hb : d.Beside d')
    (ha : Abides loaded d.session.topics d.link.state h') : d'.Gated loaded h' := by
  refine hg.next hb.setup ?_ ?_ ?_
  · rw [hb.link]
    exact hb.session
  · unfold Link.Settled
    rw [hb.link]
    exact hg.settled
  · rw [hb.link]
    exact ha

/-! ### The other parts -/

/-- The calls that are permitted at any time. -/
def Plain : Hardware.Call → Prop
  | .startAccessPoint _ _ | .startStation _ _ | .request _ => False
  | .post e => e.kind ≠ .linkChanged
  | _ => True

lemma apart_of_plain {t : Topics} {l : LinkState} (c : Hardware.Call) (hc : Plain c) :
    Apart loaded t l c := by
  cases c with
  | request => exact hc.elim
  | _ => exact hc

lemma plain_of_indicator (c : Hardware.Call) (hc : Indicator.Asks c) : Plain c := by
  cases c <;> trivial

lemma plain_of_contact (c : Hardware.Call) (hc : Contact.Asks c) : Plain c := by
  cases c <;> trivial

lemma plain_of_store (c : Hardware.Call) (hc : Store.Asks c) : Plain c := by
  cases c <;> trivial

lemma plain_of_button (c : Hardware.Call) (hc : Button.Asks c) : Plain c := by
  cases c with
  | post e => simp [Plain, show e.kind = .resetRequested from hc]
  | _ => trivial

lemma sample_plain (s : Strike) : (s.sample now).Confined Plain (·.lock = s.lock) :=
  s.sample_confined now plain_of_contact (fun _ => trivial) fun _ _ => nofun

lemma set_plain (s : Strike) (lock : LockState) : (s.set lock now).Confined Plain (·.lock = lock) :=
  s.set_confined now lock (fun _ _ => trivial) (fun _ => trivial) nofun

lemma strikeStart_plain (s : Strike) (activeHigh : Bool) :
    (s.start activeHigh now).Confined Plain fun _ => True :=
  ⟨trivial, fun _ => ⟨trivial, fun _ => (s.contact.start_confined now).within plain_of_contact
    fun _ _ => trivial⟩⟩

lemma linkShutdown_plain (s : Link) : s.shutdown.Confined Plain (·.state = s.state) := by
  unfold Link.shutdown
  split
  · exact rfl
  split
  · exact ⟨trivial, fun _ => rfl⟩
  · exact rfl

lemma refresh_plain (d : Device) : (d.refresh now).Confined Plain fun d' =>
    d'.link = d.link ∧ d'.session = d.session :=
  (d.indicator.apply_confined _ now).within plain_of_indicator fun _ _ => ⟨rfl, rfl⟩

lemma reboot_plain (d : Device) (why : RebootReason) : (d.reboot why).Confined Plain fun d' =>
    d'.link = d.link ∧ d'.session = d.session := by
  unfold reboot
  split
  · exact ⟨rfl, rfl⟩
  · exact ⟨trivial, fun _ => ⟨trivial, fun _ => ⟨rfl, rfl⟩⟩⟩

lemma Abides.plain {t : Topics} {l : LinkState} (ha : Abides loaded t l h) {α : Type}
    {p : Program Hardware α} {post : α → Prop} (hp : p.Confined Plain post) :
    p.Ensures (.history Hardware) (fun a h' => post a ∧ Abides loaded t l h') h :=
  ha.ensures (hp.mono apart_of_plain fun _ => id)

/-! ### Events -/

/-- The calls that a device makes beside those of its link. -/
abbrev Spoken (loaded : Option Config) (d : Device) : Hardware.Call → Prop :=
  Apart loaded d.session.topics d.link.state

lemma Beside.of_eq (hb : d.Beside d') {d'' : Device} (hl : d''.link = d'.link)
    (hs : d''.session = d'.session) : d.Beside d'' where
  link := by rw [hl, hb.link]
  session := by rw [hs]; exact hb.session
  setup := by rw [hs]; exact hb.setup

lemma Beside.reboot (hb : d.Beside d') (why : RebootReason) :
    (d'.reboot why).Confined (Spoken loaded d) (Beside d) :=
  (d'.reboot_plain why).mono apart_of_plain fun _ h => hb.of_eq h.1 h.2

lemma goOffline_beside (hl : d.link.state = .connected → loaded ≠ none)
    (hs : d.session.Eligible d.link.state) : d.goOffline.Confined (Spoken loaded d) (Beside d) := by
  refine (Session.shutdown_apart d.timing hl hs).bind fun session hsession => ?_
  refine (linkShutdown_plain d.link).within apart_of_plain fun link hlink => ?_
  exact ⟨hlink, hsession.1, hsession.2⟩

lemma publishState_beside (hl : d.link.state = .connected → loaded ≠ none)
    (hs : d.session.Eligible d.link.state) :
    d.publishState.Confined (Spoken loaded d) (Beside d) :=
  (Session.publish_apart hl hs _ _).bind fun _ h => ⟨rfl, h.1, h.2⟩

lemma factoryReset_beside (hl : d.link.state = .connected → loaded ≠ none)
    (hs : d.session.Eligible d.link.state) (source : UInt8) :
    (d.factoryReset source).Confined (Spoken loaded d) (Beside d) := by
  refine ⟨trivial, fun _ => (goOffline_beside hl hs).bind fun d' hb => ?_⟩
  have herase := (eraseWithin_confined (eraseAttempts d'.timing) 1).mono plain_of_store fun _ => id
  refine herase.within apart_of_plain fun erased _ => ?_
  have hforgot : d.Beside { d' with hasConfig := false } := hb.of_eq rfl rfl
  cases erased with
  | true => exact hforgot.reboot .factoryReset
  | false => exact ⟨trivial, fun _ => hforgot.reboot .factoryReset⟩

lemma applySubmission_beside (hl : d.link.state = .connected → loaded ≠ none)
    (hs : d.session.Eligible d.link.state) :
    d.applySubmission.Confined (Spoken loaded d) (Beside d) := by
  have hsame : d.Beside d := ⟨rfl, hs, rfl, rfl⟩
  refine ⟨trivial, fun offered => ?_⟩
  cases offered with
  | none => exact ⟨trivial, fun _ => hsame⟩
  | some s =>
    change (ite _ _ _ : Program Hardware Device).Confined _ _
    split
    · exact ⟨trivial, fun _ => hsame⟩
    have hsave := (Store.save_confined (d.configWith s)).mono plain_of_store fun _ => id
    refine hsave.within apart_of_plain fun e _ => ?_
    cases e with
    | some e => exact ⟨trivial, fun _ => hsame⟩
    | none => exact (goOffline_beside hl hs).bind fun d' hb => hb.reboot _

lemma commandLock_beside (hs : d.session.Eligible d.link.state) (arg : UInt8) :
    (d.commandLock arg).Confined (Spoken loaded d) (Beside d) := by
  unfold commandLock
  split
  · exact ⟨trivial, fun _ => ⟨rfl, hs, rfl, rfl⟩⟩
  · exact (set_plain _ _ _).within apart_of_plain fun _ _ => ⟨rfl, hs, rfl, rfl⟩

/-- No event changes the link, and none lifts the session out of idle without one. -/
lemma react_beside (hl : d.link.state = .connected → loaded ≠ none)
    (hs : d.session.Eligible d.link.state) (e : Event) :
    (d.react e).Confined (Spoken loaded d) (Beside d) := by
  have hsame : d.Beside d := ⟨rfl, hs, rfl, rfl⟩
  unfold react
  cases e.kind with
  | doorChanged =>
    refine ⟨trivial, fun _ => ?_⟩
    exact (publishState_beside (d := { d with door := ⟨e.arg⟩ }) hl hs).mono (fun _ => id)
      fun _ h => ⟨h.link, h.session, h.setup⟩
  | lockChanged => exact ⟨trivial, fun _ => publishState_beside hl hs⟩
  | lockCommand => exact commandLock_beside hs e.arg
  | externalLockCommand => exact commandLock_beside hs e.arg
  | resetRequested => exact factoryReset_beside hl hs e.arg
  | configSubmitted => exact applySubmission_beside hl hs
  | linkChanged => exact ⟨trivial, fun _ => hsame⟩
  | sessionChanged => exact ⟨trivial, fun _ => hsame⟩
  | unknown _ => exact hsame
  | _ => exact (Session.handle_apart d.timing d.now hl hs e).bind fun _ h => ⟨rfl, h.1, h.2⟩

lemma conclude_beside (hb : d.Beside d') :
    d'.conclude.Confined (Spoken loaded d) fun r => d.Beside r.2 := by
  unfold conclude
  split
  · exact hb
  · exact (refresh_plain _ d').within apart_of_plain fun _ h => hb.of_eq h.1 h.2

lemma handle_beside (hl : d.link.state = .connected → loaded ≠ none)
    (hs : d.session.Eligible d.link.state) (e : Event) :
    (d.handle e).Confined (Spoken loaded d) fun r => d.Beside r.2 := by
  cases hr : d.rebootPending with
  | true =>
    rw [handle_pending hr]
    exact ⟨rfl, hs, rfl, rfl⟩
  | false =>
    rw [handle_eq hr]
    exact (react_beside hl hs e).bind fun d' hb => conclude_beside hb

/-! ### Time -/

/-- A link goes on in the role that it has. -/
lemma update_gated {topics : Topics} {s : Link} (t : Timing) (hs : loaded = none → s.Settled)
    (ha : Abides loaded topics s.state h) : (s.update t now).Ensures (.history Hardware)
      (fun s' h' => (loaded = none → s'.Settled) ∧ Abides loaded topics s'.state h') h := by
  by_cases hl : loaded = none
  · rw [Link.update_settled t now (hs hl)]
    exact ⟨hs, ha⟩
  · exact (Link.update_tracked t now hl ha).mono fun s' h' ha' => ⟨fun hn => absurd hn hl, ha'⟩

/-- The session is moved on once the link is, and so is idle when the link is gone. -/
lemma Gated.tick (hg : d.Gated loaded h) (ho : d.rebootPending = false → d.session.Open) :
    (d.tick now).Ensures (.history Hardware) (Gated loaded) h := by
  cases hr : d.rebootPending with
  | true =>
    rw [tick_pending now hr]
    exact hg
  | false =>
    have hsession : d.session.state ≠ .idle →
        loaded ≠ none ∧ d.session.configured = true ∧ d.session.Open := by
      intro hi
      have hl := hg.station (hg.session hi)
      exact ⟨hl, (hg.configured hl).1, ho hr⟩
    rw [tick_eq now hr]
    refine (hg.abides.plain (sample_plain now d.strike)).bind ?_
    rintro strike h ⟨-, ha⟩ high _ rfl
    have hbutton := (d.button.tick_confined (!high) (now - d.lastTick) now).mono plain_of_button
      fun _ => id
    refine ((ha.apart (.pinRead Pin.button) high trivial).plain hbutton).bind ?_
    rintro button h ⟨-, ha⟩
    refine (update_gated now d.timing hg.settled ha).bind ?_
    rintro link h ⟨hsettled, ha⟩
    have hstation : link.state = .connected → loaded ≠ none := by
      intro hup hl
      rcases hsettled hl with hs | hs <;> rw [hup] at hs <;> cases hs
    refine (ha.ensures (Session.update_apart d.timing now hstation hsession)).bind ?_
    rintro session h ⟨⟨heligible, hsetup⟩, ha⟩
    have hlight := (d.indicator.update_confined d.timing now).mono plain_of_indicator fun _ => id
    refine (ha.plain hlight).bind ?_
    rintro indicator h ⟨-, ha⟩
    exact hg.next hsetup heligible hsettled ha

lemma Gated.act (hg : d.Gated loaded h) (ho : d.rebootPending = false → d.session.Open) (s : Step) :
    (d.act s).Ensures (.history Hardware) (Gated loaded) h := by
  have hposts {e : Event} (hk : e.kind ≠ .linkChanged) :
      (Hardware.post e >>= fun _ => pure d).Confined (Spoken loaded d) (Beside d) :=
    ⟨hk, fun _ => ⟨rfl, hg.session, rfl, rfl⟩⟩
  have hother (hp : (d.act s).Confined (Spoken loaded d) (Beside d)) :
      (d.act s).Ensures (.history Hardware) (Gated loaded) h :=
    (hg.abides.ensures hp).mono fun d' h' hd => hg.beside hd.1 hd.2
  cases s with
  | tick now => exact hg.tick now ho
  | handle e => exact hother ((handle_beside hg.station hg.session e).bind fun r hb => hb)
  | requestLock l now => exact hother (hposts nofun)
  | submit s now =>
    refine hother ⟨trivial, fun ok => ?_⟩
    cases ok with
    | true => exact hposts nofun
    | false => exact ⟨rfl, hg.session, rfl, rfl⟩
  | requestReset now => exact hother (hposts nofun)

/-! ### The start -/

/-- Without a configuration the device opens its own network and says nothing to a broker. -/
lemma startSetup_gated (hl : d.link.state = .uninitialized) (hi : d.session.state = .idle)
    (ha : Abides none d.session.topics .uninitialized h) :
    (d.startSetup now).Ensures (.history Hardware) (Gated none) h := by
  refine (Link.enterSetup_tracked now rfl (.inl hl) (hl ▸ ha)).bind ?_
  rintro ⟨opened, link⟩ h ⟨hsettled, ha⟩
  have hg : Gated none { d with link := link } h :=
    ⟨ha, fun hn => absurd hi hn, fun hn => absurd rfl hn, fun _ => hsettled⟩
  cases opened with
  | true => exact hg
  | false =>
    have hsame : Beside { d with link := link } { d with link := link } :=
      ⟨rfl, hg.session, rfl, rfl⟩
    exact (ha.ensures (hsame.reboot .setupRefused)).mono fun _ _ hd => hg.beside hd.1 hd.2

lemma takeStation_gated (hl : d.link.state = .uninitialized) (hi : d.session.state = .idle)
    (hc : d.session.configured = true) (hw : d.session.wording.Distinct) (hn : loaded ≠ none)
    (ha : Abides loaded d.session.topics .uninitialized h) :
    (d.takeStation now).Ensures (.history Hardware) (Gated loaded) h := by
  refine (Link.start_tracked d.timing now hn (hl ▸ ha) d.config).bind ?_
  rintro ⟨started, link⟩ h ha
  have hg : Gated loaded { d with link := link } h :=
    ⟨ha, fun hs => absurd hi hs, fun _ => ⟨hc, hw⟩, fun hl => absurd hl hn⟩
  cases started with
  | true => exact hg
  | false =>
    have hsame : Beside { d with link := link } { d with link := link } :=
      ⟨rfl, hg.session, rfl, rfl⟩
    exact (ha.ensures (hsame.reboot .stationRefused)).mono fun _ _ hd => hg.beside hd.1 hd.2

lemma Abides.of_plain {t : Topics} (hh : ∀ x ∈ h, Plain x.call) :
    Abides loaded t .uninitialized h := by
  induction h with
  | nil => exact .nil
  | cons x h ih =>
    obtain ⟨hx, hh⟩ := List.forall_mem_cons.1 hh
    exact (ih hh).apart x.call x.answer (apart_of_plain x.call hx)

lemma startFrom_gated (t : Timing) (hloaded : ∀ c ∈ loaded, c.complete = true)
    (indicator : Indicator) (id : Bytes) (hh : ∀ x ∈ h, Plain x.call) :
    ((new t).startFrom now indicator id loaded).Ensures (.history Hardware) (Gated loaded) h := by
  have hrefresh {d : Device} {h : List (Exchange Hardware)} (hg : d.Gated loaded h) :
      (d.refresh now).Ensures (.history Hardware) (Gated loaded) h := by
    refine (hg.abides.plain (refresh_plain now d)).mono fun d' h' hd => ?_
    have hsame : d.Beside d := ⟨rfl, hg.session, rfl, rfl⟩
    exact hg.beside (hsame.of_eq hd.1.1 hd.1.2) hd.2
  have hstrike := strikeStart_plain now (new t).strike
    (loaded.isSome && (loaded.getD (new t).config).lockActiveHigh)
  refine (hstrike.calls hh).bind fun strike h hh => Ensures.bind ?_ fun d h hg => hrefresh hg
  cases loaded with
  | none =>
    rw [startRole_setup now rfl]
    rintro _ _ rfl
    exact startSetup_gated now rfl rfl ((Abides.of_plain hh.2).apart (.log _) () trivial)
  | some c =>
    obtain ⟨session, hsetup, hrole⟩ := startRole_station (d := { new t with
      now := now
      lastTick := now
      indicator := indicator
      deviceId := id
      config := c
      hasConfig := true
      strike := strike }) now rfl (hloaded c rfl)
    rw [show (some c).getD (new t).config = c from rfl, show (some c).isSome = true from rfl, hrole]
    rintro _ _ rfl
    refine takeStation_gated now rfl hsetup.state hsetup.configured hsetup.distinct nofun ?_
    exact (Abides.of_plain hh.2).apart (.log _) () trivial

end Device

/-! ### The life of a device -/

namespace Life

open Device

lemma begin_gated (t : Timing) (now : Clock) : (begin t now).Ensures (.history Hardware)
    (fun l h => l.device.Gated l.loaded h) [] := by
  have hlight := ((new t).indicator.start_confined now).mono plain_of_indicator fun _ => id
  refine (hlight.calls (h := []) nofun).bind ?_
  rintro indicator h ⟨-, hh⟩ id _ rfl _ _ rfl
  have hload := (Store.load_confined.and Store.load_complete).mono
    (fun c hc => plain_of_store c hc.1) fun _ hr => hr.2
  refine (hload.calls ?_).bind ?_
  · exact List.forall_mem_cons.2 ⟨trivial, List.forall_mem_cons.2 ⟨trivial, hh⟩⟩
  · rintro loaded h ⟨hloaded, hh⟩
    exact (startFrom_gated now t hloaded indicator id hh).bind fun _ _ hd => hd

/-- What is kept through a life: what the device stands on, and what it asked for. -/
def Kept (t : Timing) (l : Life) (h : List (Exchange Hardware)) : Prop :=
  l.Standing t h ∧ l.device.Gated l.loaded h

lemma Kept.step {t : Timing} {l : Life} {h : List (Exchange Hardware)} (hl : l.Kept t h)
    (s : Device.Step) : (l.step s).Ensures (.history Hardware) (Kept t) h :=
  (hl.1.step s).and ((hl.2.act hl.1.device.session s).bind fun _ _ hd => hd)

lemma run_kept (t : Timing) (now : Clock) (steps : List Device.Step) :
    (do (← begin t now).run steps).Ensures (.history Hardware) (Kept t) [] := by
  refine ((begin_standing t now).and (begin_gated t now)).bind fun l h hl => ?_
  exact run_ensures (fun l s h hl => hl.step s) steps hl

/-- A life that asked for nothing but what its link was good for. -/
structure Linked (l : Life) (h : List (Exchange Hardware)) : Prop where
  /-- The link is in the state that it reported last. -/
  reported : l.device.link.state = Link.reported h
  session : l.device.session.state ≠ .idle → l.device.link.state = .connected
  /-- Without a configuration the device joins no network and says nothing to a broker. -/
  unconfigured : l.loaded = none → l.device.session.state = .idle ∧
    ∀ x ∈ h, (∀ ssid pass, x.call ≠ .startStation ssid pass) ∧ ∀ r, x.call ≠ .request r
  /-- With one it opens no network of its own. -/
  configured : l.loaded ≠ none → ∀ x ∈ h, ∀ ssid pass, x.call ≠ .startAccessPoint ssid pass
  /-- Nothing but the leave is said over a link that is not connected. -/
  leave : ∀ r taken past, ⟨.request r, taken⟩ :: past <:+ h →
    Link.reported past = .connected ∨ r.Farewell l.device.session.topics
  /-- To connect, to announce itself and to report takes a connected link. -/
  opening : ∀ r taken past, ⟨.request r, taken⟩ :: past <:+ h →
    ∀ g reports, r ∈ l.device.session.wording.opening g reports → Link.reported past = .connected

/-- **A session needs the link**: after any operations, whatever the hardware answers, the link is in
the state that it reported last, and connected where the session is not idle. Without a configuration
the device has joined no network and asked nothing of a broker; with one it has opened no network of
its own. It has connected, announced itself and reported over a connected link only, and over any
other it has said nothing but its leave. -/
theorem session_needs_link (t : Timing) (now : Clock) (steps : List Device.Step) :
    (do (← begin t now).run steps).Ensures (.history Hardware) Linked [] := by
  refine (run_kept t now steps).mono ?_
  rintro l h ⟨-, hg⟩
  have hpermits {x : Exchange Hardware} (hx : x ∈ h) :
      ∃ past, Permits l.loaded l.device.session.topics (Link.reported past) x.call := by
    obtain ⟨later, past, rfl⟩ := List.append_of_mem hx
    exact ⟨past, hg.abides.heeds x past (List.suffix_append later _)⟩
  have hrequest {r : Request} {taken : Bool} {past : List (Exchange Hardware)}
      (hp : ⟨.request r, taken⟩ :: past <:+ h) := hg.abides.heeds _ past hp
  constructor
  case reported => exact hg.abides.reported.symm
  case session => exact hg.session
  case unconfigured =>
    refine fun hl => ⟨?_, fun x hx => ⟨fun ssid pass hc => ?_, fun r hc => ?_⟩⟩
    · by_contra hi
      exact hg.station (hg.session hi) hl
    · obtain ⟨past, hp⟩ := hpermits hx
      rw [hc] at hp
      exact hp hl
    · obtain ⟨past, hp⟩ := hpermits hx
      rw [hc] at hp
      exact hp.1 hl
  case configured =>
    intro hl x hx ssid pass hc
    obtain ⟨past, hp⟩ := hpermits hx
    rw [hc] at hp
    exact hl hp
  case leave => exact fun r taken past hp => (hrequest hp).2
  case opening =>
    intro r taken past hp g reports hopening
    obtain ⟨hl, hr⟩ := hrequest hp
    exact hr.resolve_right (Wording.not_farewell (hg.configured hl).2 hopening)

end Life

end DoorControl
