import DoorControl.Proofs.Device.Reports
import DoorControl.Proofs.Device.Standing
import DoorControl.Proofs.Snapshot

/-!
What the snapshot and the light show. Only a handled event brings them up to date, but no part
changes what they show without a report: with no event waiting they are of the present state.
-/

namespace DoorControl

open Program

/-! ### A queue at rest -/

namespace Traffic

variable {q : Traffic} {P Q : Prop}

/-- Of a queue with room for an event: with none waiting, `P` holds. -/
structure AtRest (P : Prop) (q : Traffic) : Prop where
  room : 0 < q.capacity
  rest : q.queue = [] → P

namespace AtRest

lemma mono (h : AtRest P q) (hP : P → Q) : AtRest Q q := ⟨h.room, fun hq => hP (h.rest hq)⟩

/-- After a post an event waits, whether it was the one that was posted or the queue is full. -/
lemma post (h : AtRest P q) (own : Bool) (e : Event) : AtRest False (q.post own e) := by
  unfold Traffic.post
  split
  · exact ⟨h.room, fun hq => by simp at hq⟩
  · rename_i hfull
    refine ⟨h.room, fun hq => hfull ?_⟩
    rw [show q.queue = [] from hq]
    exact h.room

lemma ensures {α : Type} {p : Program Hardware α} {post : α → Prop} (h : AtRest P q)
    (hp : p.Gives post) : p.Ensures surroundings (fun a q' => post a ∧ AtRest P q') q :=
  ensures_keep hp (fun _ e h => (h.post false e).mono False.elim)
    (fun _ e _ h => (h.post true e).mono False.elim) h

lemma busy {α : Type} {p : Program Hardware α} (h : AtRest False q) :
    p.Ensures surroundings (fun _ q' => AtRest False q') q :=
  (h.ensures (gives_true p)).mono fun _ _ => And.right

lemma postOrWarn (h : AtRest P q) (tag : Bytes) (e : Event) :
    (Hardware.postOrWarn tag e).Ensures surroundings (fun _ q' => AtRest False q') q :=
  postOrWarn_ensures (K := AtRest P) tag (fun _ h => h.post true e)
    (fun _ e h => (h.post false e).mono False.elim) (fun _ e h => h.post false e) h

end AtRest

end Traffic

/-! ### The parts -/

namespace Link

open Traffic

variable {s : Link} {q : Traffic} {P : Prop} (t : Timing) (now : Clock)

lemma transition_busy (h : AtRest P q) {next : LinkState} (hn : next ≠ s.state) :
    (s.transition next now).Ensures surroundings (fun _ q' => AtRest False q') q := by
  unfold transition
  rw [if_neg hn]
  exact (h.postOrWarn tag _).bind fun _ _ h => h

lemma fail_busy (h : AtRest P q) (hs : s.state ≠ .disconnected) (why : Failure) :
    (s.fail t now why).Ensures surroundings (fun _ q' => AtRest False q') q := by
  refine (h.ensures (gives_true Hardware.stopRadio)).bind fun _ q h => ?_
  refine (h.2.ensures (gives_true (Hardware.warn tag _))).bind fun _ q h => ?_
  exact transition_busy now h.2 hs.symm

lemma connect_busy (h : AtRest P q) (hs : s.state ≠ .connecting) :
    (s.connect t now).Ensures surroundings (fun _ q' => AtRest False q') q :=
  (transition_busy (s := { s with startedAt := now }) now h hs.symm).bind fun _ _ h => h.busy

/-- A link that is in another state has reported it. -/
lemma update_rest (h : AtRest P q) {x : LinkState} (hs : s.state = x) :
    (s.update t now).Ensures surroundings (fun s' q' => AtRest (P ∧ s'.state = x) q') q := by
  have hsame {q : Traffic} (h : AtRest P q) :
      (pure s : Program Hardware Link).Ensures surroundings
        (fun s' q' => AtRest (P ∧ s'.state = x) q') q :=
    h.mono fun hP => ⟨hP, hs⟩
  have hbusy {p : Program Hardware Link} {q : Traffic}
      (hp : p.Ensures surroundings (fun _ q' => AtRest False q') q) :
      p.Ensures surroundings (fun s' q' => AtRest (P ∧ s'.state = x) q') q :=
    hp.mono fun _ _ h => h.mono False.elim
  unfold update
  split
  · exact hsame h
  rw [hs]
  cases x with
  | connecting =>
    refine (h.ensures (gives_true Hardware.radioStatus)).bind ?_
    rintro r q ⟨-, h⟩
    cases r with
    | up =>
      refine (h.ensures (gives_true (Hardware.info tag _))).bind fun _ q h => ?_
      exact hbusy (transition_busy now h.2 (by rw [hs]; nofun))
    | failed => exact hbusy (fail_busy t now h (by rw [hs]; nofun) .association)
    | down =>
      dsimp only
      split
      · exact hbusy (fail_busy t now h (by rw [hs]; nofun) .timeout)
      · exact hsame h
  | connected =>
    refine (h.ensures (gives_true Hardware.radioStatus)).bind ?_
    rintro r q ⟨-, h⟩
    split
    · exact hsame h
    · refine (h.ensures (gives_true Hardware.stopRadio)).bind fun _ q h => ?_
      refine (h.2.ensures (gives_true (Hardware.warn tag _))).bind fun _ q h => ?_
      exact hbusy (transition_busy now h.2 (by rw [hs]; nofun))
  | disconnected =>
    dsimp only
    split
    · exact hbusy (connect_busy t now h (by rw [hs]; nofun))
    · exact hsame h
  | uninitialized => exact hsame h
  | setupMode => exact hsame h

end Link

namespace Session

open Traffic

variable {s : Session} {q : Traffic} {P : Prop} (t : Timing) (now : Clock)

/-- What is shown of a session. -/
def present (s : Session) : SessionState × UInt8 := (s.state, s.failures)

lemma transition_busy (h : AtRest P q) {next : SessionState} (hn : next ≠ s.state) :
    (s.transition next now).Ensures surroundings (fun _ q' => AtRest False q') q := by
  unfold transition
  rw [if_neg hn]
  exact (h.postOrWarn tag _).bind fun _ _ h => h

lemma fail_busy (h : AtRest P q) (hs : s.state ≠ .backoff) (why : Failure) :
    (s.fail t now why).Ensures surroundings (fun _ q' => AtRest False q') q := by
  refine (h.ensures (gives_true s.teardown)).bind fun _ q h => ?_
  refine (h.2.ensures (gives_true (Hardware.warn tag _))).bind fun _ q h => ?_
  exact transition_busy now h.2 hs.symm

lemma connect_busy (h : AtRest P q) (hs : s.state ≠ .connecting) :
    (s.connect t now).Ensures surroundings (fun _ q' => AtRest False q') q := by
  have hbegun := transition_busy (s := { s with
    generation := s.generation + 1
    connection := { s.connection with generation := s.generation + 1 }
    startedAt := now }) now h hs.symm
  exact hbegun.bind fun _ _ h => h.busy

lemma publishPending_present (s : Session) : s.publishPending.Gives (·.present = s.present) := by
  unfold publishPending
  split
  · exact rfl
  · refine ⟨trivial, fun taken => ?_⟩
    cases taken <;> exact rfl

/-- A session that is in another state, or counts another failure, has reported it. -/
lemma update_rest (h : AtRest P q) (linkUp : Bool) {x : SessionState} (hs : s.state = x) :
    (s.update t linkUp now).Ensures surroundings
      (fun s' q' => AtRest (P ∧ s'.present = (x, s.failures)) q') q := by
  have hpresent : s.present = (x, s.failures) := by rw [present, hs]
  have hsame {q : Traffic} (h : AtRest P q) :
      (pure s : Program Hardware Session).Ensures surroundings
        (fun s' q' => AtRest (P ∧ s'.present = (x, s.failures)) q') q :=
    h.mono fun hP => ⟨hP, hpresent⟩
  have hbusy {p : Program Hardware Session} {q : Traffic}
      (hp : p.Ensures surroundings (fun _ q' => AtRest False q') q) :
      p.Ensures surroundings (fun s' q' => AtRest (P ∧ s'.present = (x, s.failures)) q') q :=
    hp.mono fun _ _ h => h.mono False.elim
  unfold update
  split
  · exact hsame h
  split
  · split
    · exact hsame h
    · rename_i hi
      refine (h.ensures (gives_true s.teardown)).bind fun _ q h => ?_
      exact hbusy (transition_busy now h.2 (Ne.symm hi))
  rw [hs]
  cases x with
  | idle => exact hbusy (connect_busy t now h (by rw [hs]; nofun))
  | backoff =>
    dsimp only
    split
    · exact hbusy (connect_busy t now h (by rw [hs]; nofun))
    · exact hsame h
  | connecting =>
    dsimp only
    split
    · exact hbusy (fail_busy t now h (by rw [hs]; nofun) .timeout)
    · exact hsame h
  | connected =>
    dsimp only
    split
    · exact hbusy (fail_busy t now h (by rw [hs]; nofun) .timeout)
    · exact hsame h
  | subscribed =>
    refine (h.ensures s.publishPending_present).mono fun s' q h => ?_
    exact h.2.mono fun hP => ⟨hP, h.1.trans hpresent⟩

end Session

namespace Indicator

variable (s : Indicator) (now : Clock)

lemma display_pattern (c : LightColor) : (s.display c).Gives (·.pattern = s.pattern) := by
  unfold display
  split
  · exact rfl
  · exact Gives.after fun _ => rfl

lemma apply_pattern (p : LightPattern) : (s.apply p now).Gives (·.2.pattern = p) := by
  unfold apply
  split
  · rename_i hp
    exact hp.symm
  · exact (display_pattern { s with pattern := p, lit := true, phase := now } _).bind fun _ h => h

lemma update_pattern (t : Timing) : (s.update t now).Gives (·.pattern = s.pattern) := by
  unfold update
  split
  · exact rfl
  split
  · exact rfl
  · exact display_pattern { s with lit := !s.lit, phase := now } _

end Indicator

lemma LightPattern.of_color_le (setup : Bool) (link : Option LinkState)
    (session : Option SessionState) : (of setup link session).color.code ≤ 3 := by
  unfold of
  repeat' split
  all_goals decide

/-- Nobody but the device had a hand in it. -/
def Moment.own : Moment → Bool
  | .posted own _ _ => own
  | .handled _ => true

/-! ### The device -/

namespace Device

open Traffic

/-- The snapshot and the light are of the present state. -/
def Current (d : Device) : Prop :=
  d.snapshot = .pack d.systemState ∧ d.indicator.pattern = d.lightPattern

/-- Until a restart is due, a device with no event waiting is up to date. -/
def Fresh (d : Device) (q : Traffic) : Prop := d.rebootPending = false → AtRest d.Current q

variable {d : Device} {q : Traffic} (now : Clock)

lemma refresh_current (d : Device) : (d.refresh now).Gives Current :=
  (d.indicator.apply_pattern now d.lightPattern).bind fun _ h => ⟨rfl, h⟩

lemma conclude_current (d : Device) :
    d.conclude.Gives fun r => r.2.rebootPending = false → r.2.Current := by
  unfold conclude
  split
  · rename_i hr
    exact fun hr' => absurd (hr.symm.trans hr') nofun
  · exact (refresh_current _ d).bind fun _ h _ => h

lemma handle_current (d : Device) (e : Event) :
    (d.handle e).Gives fun r => r.2.rebootPending = false → r.2.Current := by
  cases hr : d.rebootPending with
  | true =>
    rw [handle_pending hr]
    exact fun hr' => absurd (hr.symm.trans hr') nofun
  | false =>
    rw [handle_eq hr]
    exact Gives.after conclude_current

lemma Current.same {d' : Device} (h : d.Current) (hsnap : d'.snapshot = d.snapshot)
    (hlock : d'.strike.lock = d.strike.lock) (hdoor : d'.door = d.door)
    (hlink : d'.link.state = d.link.state) (hsession : d'.session.present = d.session.present)
    (hlight : d'.indicator.pattern = d.indicator.pattern) : d'.Current := by
  simp only [Session.present, Prod.mk.injEq] at hsession
  have hsetup : d'.inSetup = d.inSetup := by rw [inSetup, inSetup, hlink]
  have hstate : d'.systemState = d.systemState := by
    simp only [systemState, hlock, hdoor, hlink, hsession, hsetup, hlight]
  have hpattern : d'.lightPattern = d.lightPattern := by
    simp only [lightPattern, hlink, hsession, hsetup]
  exact ⟨by rw [hsnap, hstate, h.1], by rw [hlight, hpattern, h.2]⟩

/-- Time passes without bringing anything up to date, but not without a report of what changes. -/
lemma Fresh.tick (h : d.Fresh q) : (d.tick now).Ensures surroundings Fresh q := by
  cases hr : d.rebootPending with
  | true =>
    rw [tick_pending now hr]
    exact h
  | false =>
    rw [tick_eq now hr]
    have hsample : (d.strike.sample now).Gives (·.lock = d.strike.lock) :=
      d.strike.sample_confined now (fun _ _ => trivial) (fun _ => trivial) fun _ _ => trivial
    refine ((h hr).ensures hsample).bind ?_
    rintro strike q ⟨hlock, h⟩
    refine (h.ensures (gives_true (Hardware.pinRead Pin.button))).bind ?_
    rintro high q ⟨-, h⟩
    refine (h.ensures (gives_true (d.button.tick (!high) (now - d.lastTick) now))).bind ?_
    rintro button q ⟨-, h⟩
    refine (Link.update_rest d.timing now h rfl).bind fun link q h => ?_
    refine (Session.update_rest d.timing now h _ rfl).bind fun session q h => ?_
    refine (h.ensures (d.indicator.update_pattern now d.timing)).bind ?_
    rintro indicator q ⟨hlight, h⟩ -
    refine h.mono ?_
    rintro ⟨⟨hcurrent, hlink⟩, hsession⟩
    exact hcurrent.same rfl hlock rfl hlink hsession hlight

lemma Fresh.handle (h : d.Fresh q) (e : Event) (queue : List Event) :
    (d.handle e).Ensures surroundings (fun r q' => r.2.Fresh q')
      { q with queue := queue, past := .handled e :: q.past } := by
  cases hr : d.rebootPending with
  | true =>
    rw [handle_pending hr]
    exact fun hr' => absurd (hr.symm.trans hr') nofun
  | false =>
    have hroom : AtRest True { q with queue := queue, past := .handled e :: q.past } :=
      ⟨(h hr).room, fun _ => trivial⟩
    refine (hroom.ensures (d.handle_current e)).mono ?_
    rintro r q ⟨hcurrent, h⟩ hr'
    exact h.mono fun _ => hcurrent hr'

lemma start_fresh (t : Timing) {capacity : Nat} (hcap : 0 < capacity) :
    ((new t).start now).Ensures surroundings Fresh { capacity } := by
  have hroom : AtRest True { capacity } := ⟨hcap, fun _ => trivial⟩
  have hstart : ((new t).start now).Gives Current :=
    Gives.after fun _ => Gives.after fun _ => Gives.after fun _ => Gives.after fun _ =>
      Gives.after fun _ => Gives.after fun d => refresh_current now d
  refine (hroom.ensures hstart).mono ?_
  rintro d q ⟨hcurrent, h⟩ -
  exact h.mono fun _ => hcurrent

/-! ### The door -/

/-- The calls that report no door but one that a door can be. -/
def NamesDoor : Hardware.Call → Prop
  | .post e => e.kind = .doorChanged → e.arg ≤ DoorState.closed.code
  | _ => True

lemma namesDoor_of_asks (c : Hardware.Call) (h : Asks c) : NamesDoor c := by
  cases c with
  | post e => exact fun hk => absurd hk h.1
  | _ => trivial

lemma namesDoor_of_contact (c : Hardware.Call) (h : Contact.Asks c) : NamesDoor c := by
  cases c <;> trivial

lemma namesDoor_of_quiet (c : Hardware.Call) (h : Quiet c) : NamesDoor c := by
  cases c with
  | post e => exact fun hk => absurd hk h.1
  | _ => trivial

lemma sample_namesDoor (s : Strike) : (s.sample now).Confined NamesDoor (·.lock = s.lock) := by
  refine s.sample_confined now namesDoor_of_contact (fun _ => trivial) ?_
  rintro d (rfl | rfl) -
  · exact (by decide : DoorState.opened.code ≤ DoorState.closed.code)
  · exact UInt8.le_refl _

lemma tick_namesDoor (d : Device) : (d.tick now).Confined NamesDoor fun _ => True := by
  cases hr : d.rebootPending with
  | true =>
    rw [tick_pending now hr]
    trivial
  | false =>
    rw [tick_eq now hr]
    refine (sample_namesDoor now d.strike).bind fun strike _ => ?_
    exact (afterSample_confined now strike).mono namesDoor_of_asks fun _ _ => trivial

lemma handle_namesDoor (d : Device) (e : Event) :
    (d.handle e).Confined NamesDoor fun _ => True := by
  have hconclude (d : Device) : d.conclude.Confined NamesDoor fun _ => True :=
    (conclude_confined rfl).mono namesDoor_of_asks fun _ _ => trivial
  cases hr : d.rebootPending with
  | true =>
    rw [handle_pending hr]
    trivial
  | false =>
    cases he : e.command? with
    | none =>
      rw [handle_eq hr]
      exact (react_confined he).within namesDoor_of_asks fun d _ => hconclude d
    | some l =>
      rw [handle_command hr he]
      have hset : (d.strike.set l d.now).Confined NamesDoor (·.lock = l) :=
        d.strike.set_confined d.now l (fun _ _ => trivial) (fun _ => trivial) nofun
      exact hset.bind fun _ _ => hconclude _

/-- Every door that the device reported is one that a door can be. -/
def DoorsNamed (q : Traffic) : Prop :=
  ∀ e ok, .posted true e ok ∈ q.past → e.kind = .doorChanged → e.arg ≤ DoorState.closed.code

lemma DoorsNamed.post (h : DoorsNamed q) (own : Bool) (e : Event)
    (he : own = true → NamesDoor (.post e)) : DoorsNamed (q.post own e) := by
  intro e' ok hm
  have hpast : ∃ ok, (q.post own e).past = .posted own e ok :: q.past := by
    unfold Traffic.post
    split
    · exact ⟨true, rfl⟩
    · exact ⟨false, rfl⟩
  obtain ⟨taken, hpast⟩ := hpast
  rw [hpast, List.mem_cons] at hm
  rcases hm with hm | hm
  · obtain ⟨rfl, rfl, -⟩ := Moment.posted.inj hm
    exact he rfl
  · exact h e' ok hm

lemma DoorsNamed.handled (h : DoorsNamed q) (e : Event) (queue : List Event) :
    DoorsNamed { q with queue := queue, past := .handled e :: q.past } := by
  intro e' ok hm
  rcases List.mem_cons.1 hm with hm | hm
  · cases hm
  · exact h e' ok hm

lemma DoorsNamed.ensures {α : Type} {p : Program Hardware α} (h : DoorsNamed q)
    (hp : p.Confined NamesDoor fun _ => True) :
    p.Ensures surroundings (fun _ q' => DoorsNamed q') q :=
  (ensures_keep hp (fun _ e h => h.post false e nofun) (fun _ e he h => h.post true e fun _ => he)
    h).mono fun _ _ => And.right

/-- The door of the newest report is known to be one if every report is of one. -/
lemma acceptedDoor_le {past : List Moment} (h : ∀ own e ok, .posted own e ok ∈ past →
    e.kind = .doorChanged → e.arg ≤ DoorState.closed.code) :
    (acceptedDoor past).code ≤ DoorState.closed.code := by
  unfold acceptedDoor
  cases hfound : past.findSome? (Moment.accepted? .doorChanged) with
  | none => decide
  | some arg =>
    obtain ⟨m, hm, harg⟩ := List.exists_of_findSome?_eq_some hfound
    cases m with
    | handled e => cases harg
    | posted own e ok =>
      simp only [Moment.accepted?, Option.ite_none_right_eq_some, Option.some.injEq] at harg
      obtain ⟨⟨-, hk⟩, rfl⟩ := harg
      exact h own e ok hm hk

/-! ### Main result -/

/-- What holds of a device with its queue after any turns. -/
structure Keeping (d : Device) (q : Traffic) : Prop where
  keeps : d.Keeps q
  fresh : d.Fresh q
  doors : DoorsNamed q

namespace Keeping

lemma tick (h : d.Keeping q) : (d.tick now).Ensures surroundings Keeping q := by
  have hdoors := h.doors.ensures (tick_namesDoor now d)
  refine ((h.keeps.tick now).and ((h.fresh.tick now).and hdoors)).mono ?_
  exact fun d' q' h' => ⟨h'.1, h'.2.1, h'.2.2⟩

lemma handle (h : d.Keeping q) {e : Event} {queue : List Event} (hq : q.queue = e :: queue) :
    (d.handle e).Ensures surroundings (fun r q' => r.2.Keeping q')
      { q with queue := queue, past := .handled e :: q.past } := by
  have hdoors := (h.doors.handled e queue).ensures (d.handle_namesDoor e)
  refine ((h.keeps.handle hq).and ((h.fresh.handle e queue).and hdoors)).mono ?_
  exact fun r q' h' => ⟨h'.1, h'.2.1, h'.2.2⟩

lemma post (h : d.Keeping q) (e : Event) : d.Keeping (q.post false e) where
  keeps hr := ⟨(h.keeps hr).1.post_others e, (h.keeps hr).2⟩
  fresh hr := ((h.fresh hr).post false e).mono False.elim
  doors := h.doors.post false e nofun

lemma start (t : Timing) {capacity : Nat} (hcap : 0 < capacity) :
    ((new t).start now).Ensures surroundings Keeping { capacity } := by
  have hdoors : ((new t).start now).Ensures surroundings (fun _ q' => DoorsNamed q') { capacity } :=
    DoorsNamed.ensures nofun ((start_confined t now).mono namesDoor_of_quiet fun _ _ => trivial)
  refine ((start_keeps t now capacity).and ((start_fresh now t hcap).and hdoors)).mono ?_
  exact fun d q h => ⟨h.1, h.2.1, h.2.2⟩

/-- With no event waiting, and no door reported by others, every code fits its place. -/
lemma fits (h : d.Keeping q) (hq : q.queue = []) (hr : d.rebootPending = false)
    (hothers : ∀ e ok, .posted false e ok ∈ q.past → e.kind ≠ .doorChanged) :
    d.systemState.Fits := by
  have htracks := (h.keeps hr).1
  have hlight : d.indicator.pattern = d.lightPattern := ((h.fresh hr).rest hq).2
  have hnamed : (acceptedDoor q.past).code ≤ DoorState.closed.code := by
    refine acceptedDoor_le fun own e ok hm hk => ?_
    cases own with
    | true => exact h.doors e ok hm hk
    | false => exact absurd hk (hothers e ok hm)
  have hdoor : d.door = acceptedDoor q.past := by
    rw [← htracks.queued, hq]
    rfl
  refine ⟨htracks.lockCode, ?_, ?_⟩
  · rw [← hdoor] at hnamed
    exact UInt8.le_trans hnamed (by decide)
  · change d.indicator.pattern.color.code ≤ 3
    rw [hlight]
    exact LightPattern.of_color_le _ _ _

end Keeping

/-- What the light tells by its pattern: amber of setup, red of no link yet, and green of a link,
which blinks while that is lost or its session takes no commands. -/
def signal : LinkState → SessionState → LightPattern
  | .setupMode, _ => ⟨.amber, true⟩
  | .uninitialized, _ | .connecting, _ => ⟨.red, false⟩
  | .disconnected, _ => ⟨.green, true⟩
  | .connected, .subscribed => ⟨.green, false⟩
  | .connected, _ => ⟨.green, true⟩

/-- What is read out of the snapshot, and what the light is to show, is what the parts are in. -/
structure UpToDate (d : Device) : Prop where
  lock : d.snapshot.lock = d.strike.lock
  door : d.snapshot.door = d.door
  link : LinkState.ofCode? d.snapshot.linkCode = some d.link.state
  session : SessionState.ofCode? d.snapshot.sessionCode = some d.session.state
  attempt : d.snapshot.attempt = d.session.failures
  setup : d.snapshot.setup = decide (d.link.state = .setupMode)
  light : d.indicator.pattern = signal d.link.state d.session.state
  pattern : d.indicator.pattern =
    .of (decide (d.link.state = .setupMode)) (some d.link.state) (some d.session.state)
  color : d.snapshot.color = d.indicator.pattern.color
  blink : d.snapshot.blink = d.indicator.pattern.blink

lemma lightPattern_eq (d : Device) : d.lightPattern = signal d.link.state d.session.state := by
  unfold lightPattern inSetup
  cases d.link.state <;> cases d.session.state <;> rfl

lemma Keeping.upToDate (h : d.Keeping q) (hq : q.queue = []) (hr : d.rebootPending = false)
    (hothers : ∀ e ok, .posted false e ok ∈ q.past → e.kind ≠ .doorChanged) : d.UpToDate := by
  obtain ⟨hsnapshot, hlight⟩ := (h.fresh hr).rest hq
  have hshows := Snapshot.pack_shows (h.fits hq hr hothers)
  rw [← hsnapshot] at hshows
  constructor
  case lock => exact hshows.lock
  case door => exact hshows.door
  case link => rw [hshows.link]; exact LinkState.ofCode?_code _
  case session => rw [hshows.session]; exact SessionState.ofCode?_code _
  case attempt => exact hshows.attempt
  case setup => exact hshows.setup
  case light => rw [hlight, lightPattern_eq]
  case pattern => exact hlight
  case color => exact hshows.color
  case blink => exact hshows.blink

/-- **Freshness**: the snapshot and the light are those of the present state of the parts after any
turns that leave no event waiting, whoever posted what in them and whatever was refused, unless a
restart is due. -/
theorem snapshot_fresh (t : Timing) {capacity : Nat} (hcap : 0 < capacity) (turns : List Turn) :
    ((new t).start now).Ensures surroundings (Always (fun d q =>
      q.queue = [] → d.rebootPending = false →
        (∀ e ok, .posted false e ok ∈ q.past → e.kind ≠ .doorChanged) →
          d.UpToDate) turns)
      { capacity } := by
  refine (Keeping.start now t hcap).mono fun d q hstart => ?_
  refine (always_of_keep ?_ ?_ ?_ turns hstart).mono ?_
  · exact fun d q now h => h.tick now
  · exact fun d q e queue hq h => h.handle hq
  · exact fun d q e h => h.post e
  · exact fun d q h => h.upToDate

/-- A device with room for one event that loses the first report of its door. -/
def unheard : Device × Traffic :=
  let started := ((new {}).start 0).run calm { capacity := 1 }
  live calm [.tick 100, .pump] started.1 started.2

/-- It knows nothing of the door, and that is what its snapshot shows. -/
theorem unheard_fresh : unheard.2.queue = [] ∧ unheard.1.door ≠ unheard.1.strike.door ∧
    unheard.1.UpToDate := by
  have hfresh := Always.live calm_follows [.tick 100, .pump]
    (Ensures.run calm_follows (snapshot_fresh 0 {} (by decide : 0 < 1) [.tick 100, .pump]))
  have hqueue : unheard.2.queue = [] := by decide +kernel
  have hrunning : unheard.1.rebootPending = false := by decide +kernel
  have hown : unheard.2.past.all Moment.own = true := by decide +kernel
  refine ⟨hqueue, by decide +kernel, (hfresh hqueue hrunning fun e ok hm => ?_)⟩
  cases List.all_eq_true.1 hown _ hm

end Device

end DoorControl
