import DoorControl.Proofs.Config.Slots
import DoorControl.Proofs.Device.Standing
import DoorControl.Proofs.Device.Strike
import DoorControl.Proofs.Device.Traffic

/-!
The order in which lock commands take effect. A command from the console is carried out by its own
event. One from the broker comes as a message, and what carries it out is a second event, which the
message is decoded into when it is handled and which goes to the back of the queue: a console command
that was queued after the message but before that moment is carried out first.
-/

namespace DoorControl

open Bytes Program

/-! ### A session that was set up -/

namespace Session

variable {s s' : Session} (t : Timing) (now : Clock)

/-- The session was not shut down, and was set up before it left the idle state. -/
structure Prepared (s : Session) : Prop where
  running : s.stopped = false
  configured : s.state ≠ .idle → s.configured = true

lemma Prepared.of_standing (h : s.Prepared) (hc : s.configured = true)
    (hs : s'.standing = s.standing) : s'.Prepared := by
  simp only [standing, Prod.mk.injEq] at hs
  exact ⟨hs.2.1.trans h.running, fun _ => hs.1.trans hc⟩

lemma configure_prepared (h : s.stopped = false) (hi : s.state = .idle) (c : Config) :
    (s.configure c).Gives fun r => r.2.Prepared := by
  have hidle {s' : Session} (hs : s'.stopped = false ∧ s'.state = .idle) : s'.Prepared :=
    ⟨hs.1, fun hn => absurd hs.2 hn⟩
  simp only [configure]
  split
  · exact ⟨trivial, fun _ => hidle ⟨h, hi⟩⟩
  cases Document.discovery? c (s.topics.build c.deviceId.view).2 with
  | none => exact ⟨trivial, fun _ => hidle ⟨h, hi⟩⟩
  | some d =>
    dsimp only
    split
    · exact ⟨trivial, fun _ => hidle ⟨h, hi⟩⟩
    · exact hidle ⟨h, hi⟩

lemma update_prepared (h : s.Prepared) (linkUp : Bool) :
    (s.update t linkUp now).Gives Prepared := by
  cases hc : s.configured with
  | true => exact (update_standing t now rfl linkUp).mono (fun _ => id) fun _ => h.of_standing hc
  | false =>
    unfold update
    rw [if_pos (by simp [hc])]
    exact h

lemma handle_prepared (h : s.Prepared) (e : Event) : (s.handle t e now).Gives Prepared := by
  cases hc : s.configured with
  | true => exact (handle_standing t now rfl e).mono (fun _ => id) fun _ => h.of_standing hc
  | false =>
    unfold handle
    rw [if_pos (by simp [hc])]
    exact h

lemma publish_prepared (h : s.Prepared) (l : LockState) (d : DoorState) :
    (s.publish l d).Gives Prepared := by
  cases hc : s.configured with
  | true => exact (publish_standing rfl l d).mono (fun _ => id) fun _ => h.of_standing hc
  | false =>
    have hs : s.state = .idle := by
      by_contra hn
      exact Bool.false_ne_true (hc.symm.trans (h.configured hn))
    unfold publish
    dsimp only
    rw [if_neg (by simp [hs])]
    exact ⟨h.running, h.configured⟩

end Session

namespace Device

variable {d : Device} (now : Clock)

/-- Until a restart is due, the session is prepared. -/
def Prepared (d : Device) : Prop := d.rebootPending = false → d.session.Prepared

lemma reboot_prepared (d : Device) (why : RebootReason) : (d.reboot why).Gives Prepared := by
  have hdue {d : Device} (hd : d.rebootPending = true) : d.Prepared :=
    fun hn => absurd hd (by simp [hn])
  unfold reboot
  split
  · rename_i hd
    exact hdue hd
  · exact ⟨trivial, fun _ => ⟨trivial, fun _ => hdue rfl⟩⟩

lemma refresh_prepared (h : d.Prepared) : (d.refresh now).Gives Prepared := Gives.after fun _ => h

lemma startSetup_prepared (h : d.session.Prepared) : (d.startSetup now).Gives Prepared := by
  refine Gives.after fun r => ?_
  dsimp only
  split
  · exact fun _ => h
  · exact reboot_prepared _ _

lemma startRole_prepared (h : d.session.stopped = false) (hi : d.session.state = .idle) :
    (d.startRole now).Gives Prepared := by
  unfold startRole
  split
  · refine ⟨trivial, fun _ => startSetup_prepared now ⟨h, fun hn => absurd hi hn⟩⟩
  refine (Session.configure_prepared h hi d.config).bind fun r hr => ?_
  dsimp only
  split
  · exact ⟨trivial, fun _ => startSetup_prepared now hr⟩
  refine ⟨trivial, fun _ => Gives.after fun _ => Gives.after fun link => ?_⟩
  split
  · exact fun _ => hr
  · exact reboot_prepared _ _

lemma start_prepared (t : Timing) : ((new t).start now).Gives Prepared := by
  refine Gives.after fun indicator => Gives.after fun deviceId => Gives.after fun _ => ?_
  refine Gives.after fun stored => Gives.after fun strike => ?_
  exact (startRole_prepared now rfl rfl).bind fun d h => refresh_prepared now h

lemma tick_prepared (h : d.Prepared) : (d.tick now).Gives Prepared := by
  cases hr : d.rebootPending with
  | true =>
    rw [tick_pending now hr]
    exact h
  | false =>
    rw [tick_eq now hr]
    refine Gives.after fun strike => Gives.after fun high => Gives.after fun button => ?_
    refine Gives.after fun link => ?_
    refine (Session.update_prepared d.timing now (h hr) _).bind fun session hs => ?_
    exact Gives.after fun indicator _ => hs

lemma publishState_prepared (h : d.session.Prepared) : d.publishState.Gives Prepared :=
  (Session.publish_prepared h _ _).bind fun _ hs _ => hs

lemma commandLock_prepared (h : d.session.Prepared) (arg : UInt8) :
    (d.commandLock arg).Gives Prepared := by
  unfold commandLock
  split
  · exact ⟨trivial, fun _ _ => h⟩
  · exact Gives.after fun _ _ => h

lemma factoryReset_prepared (d : Device) (source : UInt8) :
    (d.factoryReset source).Gives Prepared := by
  refine Gives.after fun _ => Gives.after fun d' => Gives.after fun erased => ?_
  cases erased with
  | true => exact reboot_prepared _ _
  | false => exact ⟨trivial, fun _ => reboot_prepared _ _⟩

lemma applySubmission_prepared (h : d.session.Prepared) : d.applySubmission.Gives Prepared := by
  refine ⟨trivial, fun taken => ?_⟩
  cases taken with
  | none => exact ⟨trivial, fun _ _ => h⟩
  | some s =>
    change (ite _ _ _ : Program Hardware Device).Gives _
    split
    · exact ⟨trivial, fun _ _ => h⟩
    refine Gives.after fun failure => ?_
    cases failure with
    | some e => exact ⟨trivial, fun _ _ => h⟩
    | none => exact Gives.after fun _ => reboot_prepared _ _

lemma react_prepared (h : d.session.Prepared) (e : Event) : (d.react e).Gives Prepared := by
  unfold react
  cases e.kind with
  | doorChanged =>
    exact ⟨trivial, fun _ => publishState_prepared (d := { d with door := ⟨e.arg⟩ }) h⟩
  | lockChanged => exact ⟨trivial, fun _ => publishState_prepared h⟩
  | lockCommand => exact commandLock_prepared h _
  | externalLockCommand => exact commandLock_prepared h _
  | resetRequested => exact factoryReset_prepared d _
  | configSubmitted => exact applySubmission_prepared h
  | linkChanged => exact ⟨trivial, fun _ _ => h⟩
  | sessionChanged => exact ⟨trivial, fun _ _ => h⟩
  | unknown _ => exact fun _ => h
  | _ => exact (Session.handle_prepared d.timing d.now h e).bind fun _ hs _ => hs

lemma handle_prepared (h : d.Prepared) (e : Event) :
    (d.handle e).Gives fun r => r.2.Prepared := by
  cases hr : d.rebootPending with
  | true =>
    rw [handle_pending hr]
    exact h
  | false =>
    rw [handle_eq hr]
    refine (react_prepared (h hr) e).bind fun d' h' => ?_
    unfold conclude
    split
    · exact h'
    · exact (refresh_prepared _ h').bind fun _ h'' => h''

end Device

/-! ### What went through the queue -/

namespace Moment

/-- The event that entered the queue. -/
def entered? : Moment → Option Event
  | .posted _ e true => some e
  | _ => none

/-- The event that another producer put into the queue. -/
def placed? : Moment → Option Event
  | .posted false e true => some e
  | _ => none

/-- The event that left the queue. -/
def left? : Moment → Option Event
  | .handled e => some e
  | _ => none

/-- The command that the device itself posts. -/
def relayed? : Moment → Option LockState
  | .posted true e _ => e.command?
  | _ => none

/-- The session does not report a change of its state. -/
def steady : Moment → Bool
  | .posted true e _ => e.kind ≠ .sessionChanged
  | _ => true

/-- The device's own post of a command is not refused. -/
def heard : Moment → Bool
  | .posted true e false => e.command? = none
  | _ => true

end Moment

/-- The command in a message of the broker on the connection of a generation. -/
def Event.brokered? (g : UInt8) (e : Event) : Option LockState :=
  if e.kind = .message ∧ e.arg = g then LockState.ofCommand? e.text.view else none

/-- What the moments so far come to, the oldest first. -/
def inTurn {α : Type} (f : Moment → Option α) (past : List Moment) : List α :=
  past.reverse.filterMap f

/-- The commands that events carry out themselves. -/
def direct (es : List Event) : List LockState := es.filterMap Event.command?

/-- The commands that come in messages. -/
def brokered (g : UInt8) (es : List Event) : List LockState := es.filterMap (Event.brokered? g)

lemma direct_append (es fs : List Event) : direct (es ++ fs) = direct es ++ direct fs :=
  List.filterMap_append

lemma direct_singleton (e : Event) : direct [e] = e.command?.toList := by
  cases h : e.command? <;> simp [direct, h]

lemma brokered_append (g : UInt8) (es fs : List Event) :
    brokered g (es ++ fs) = brokered g es ++ brokered g fs :=
  List.filterMap_append

lemma brokered_singleton (g : UInt8) (e : Event) : brokered g [e] = (e.brokered? g).toList := by
  cases h : e.brokered? g <;> simp [brokered, h]

@[simp] lemma inTurn_cons {α : Type} (f : Moment → Option α) (m : Moment) (past : List Moment) :
    inTurn f (m :: past) = inTurn f past ++ (f m).toList := by
  rw [inTurn, List.reverse_cons, List.filterMap_append, inTurn]
  cases h : f m <;> simp [h]

namespace Traffic

variable {α : Type} {queue : List Event} {q : Traffic}

lemma post_past (q : Traffic) (own : Bool) (e : Event) :
    (q.post own e).past = .posted own e (decide (q.queue.length < q.capacity)) :: q.past := by
  unfold post
  split <;> simp [*]

/-- What left the queue and what is in it are what was in it at first and what entered it. -/
def Orderly (queue : List Event) (q : Traffic) : Prop :=
  inTurn Moment.left? q.past ++ q.queue = queue ++ inTurn Moment.entered? q.past

lemma Orderly.post (h : q.Orderly queue) (own : Bool) (e : Event) :
    (q.post own e).Orderly queue := by
  unfold Orderly at *
  unfold Traffic.post
  split
  · simp [Moment.left?, Moment.entered?, ← List.append_assoc, h]
  · simp [Moment.left?, Moment.entered?, h]

lemma Orderly.pump (h : q.Orderly queue) {e : Event} {rest : List Event} (hq : q.queue = e :: rest) :
    Orderly queue { q with queue := rest, past := .handled e :: q.past } := by
  unfold Orderly at *
  simpa [Moment.left?, Moment.entered?, hq] using h

lemma Orderly.ensures (h : q.Orderly queue) {left : List Event}
    (hleft : inTurn Moment.left? q.past = left) (p : Program Hardware α) :
    p.Ensures surroundings (fun _ q' => q'.Orderly queue ∧ inTurn Moment.left? q'.past = left) q := by
  have hpost (q : Traffic) (own : Bool) (e : Event)
      (hq : q.Orderly queue ∧ inTurn Moment.left? q.past = left) :
      (q.post own e).Orderly queue ∧ inTurn Moment.left? (q.post own e).past = left := by
    refine ⟨hq.1.post own e, ?_⟩
    rw [post_past, inTurn_cons, hq.2]
    exact List.append_nil left
  refine (ensures_keep (gives_true p) (fun q e => hpost q false e) (fun q e _ => hpost q true e)
    ⟨h, hleft⟩).mono ?_
  exact fun _ _ hq => hq.2

end Traffic

/-! ### Messages and what becomes of them -/

/-- The session reported no change of its state. -/
def Traffic.Steady (q : Traffic) : Prop := ∀ m ∈ q.past, m.steady = true

lemma Traffic.Steady.of_post {q : Traffic} {own : Bool} {e : Event}
    (h : (q.post own e).Steady) : q.Steady := fun m hm =>
  h m (by rw [Traffic.post_past]; exact List.mem_cons_of_mem _ hm)

lemma Traffic.unsteady_post {q : Traffic} (h : ¬q.Steady) (own : Bool) (e : Event) :
    ¬(q.post own e).Steady := fun hst => h hst.of_post

lemma Event.command?_relayed {payload : Bytes} {l : LockState}
    (h : LockState.ofCommand? payload = some l) (now : Clock) :
    Event.command? { kind := .lockCommand, time := now, arg := l.code } = some l := by
  unfold LockState.ofCommand? at h
  split_ifs at h <;> obtain rfl := Option.some.inj h <;> rfl

/-- The calls that post no command. -/
def Hardware.Mute : Hardware.Call → Prop
  | .post e => e.command? = none
  | _ => True

namespace Session

variable {α : Type} {g : UInt8} {relayed : List LockState} {s s' : Session} {q : Traffic}

/-- The session is subscribed on the connection of a generation, and takes its messages. -/
structure Speaks (g : UInt8) (s : Session) : Prop where
  configured : s.configured = true
  running : s.stopped = false
  subscribed : s.state = .subscribed
  generation : s.generation = g

/-- Unless it reported a change of its state, the session is still subscribed, and these are the
commands that it relayed. -/
def Relays (g : UInt8) (relayed : List LockState) (s : Session) (q : Traffic) : Prop :=
  q.Steady → s.Speaks g ∧ inTurn Moment.relayed? q.past = relayed

lemma Relays.post (h : s.Relays g relayed q) (own : Bool) (e : Event)
    (he : own = true → e.command? = none) : s.Relays g relayed (q.post own e) := by
  intro hst
  obtain ⟨hs, hr⟩ := h hst.of_post
  refine ⟨hs, ?_⟩
  rw [Traffic.post_past, inTurn_cons, hr]
  cases own with
  | true => simp [Moment.relayed?, he rfl]
  | false => simp [Moment.relayed?]

lemma Relays.others (h : s.Relays g relayed q) (e : Event) : s.Relays g relayed (q.post false e) :=
  h.post false e nofun

lemma Relays.ensures (h : s.Relays g relayed q) {p : Program Hardware α} {post : α → Prop}
    (hp : p.Confined Hardware.Mute post) :
    p.Ensures Traffic.surroundings (fun a q' => post a ∧ s.Relays g relayed q') q :=
  Traffic.ensures_keep hp (fun _ e h => h.others e) (fun _ e he h => h.post true e fun _ => he) h

/-- Once a change was reported, nothing is claimed any more. -/
lemma relays_of_unsteady (h : ¬q.Steady) (p : Program Hardware α) (f : α → Session) :
    p.Ensures Traffic.surroundings (fun a q' => (f a).Relays g relayed q') q := by
  refine (Traffic.ensures_keep (K := fun q => ¬q.Steady) (gives_true p) (fun q e h => Traffic.unsteady_post h false e)
    (fun q e _ h => Traffic.unsteady_post h true e) h).mono ?_
  exact fun a q' h' hst => absurd hst h'.2

variable (t : Timing) (now : Clock)

lemma transition_relays {next : SessionState} (hn : next ≠ s.state) :
    (s.transition next now).Ensures Traffic.surroundings (fun s' q' => s'.Relays g relayed q') q := by
  unfold transition
  rw [if_neg hn]
  refine (Traffic.postOrWarn_ensures (K := fun _ => True) (L := fun q => ¬q.Steady) _
    (fun q _ hst => ?_) (fun _ _ => id) (fun q e h => Traffic.unsteady_post h false e) trivial).bind
    fun _ q' hq => fun hst => absurd hst hq
  have hm := hst _ (by rw [Traffic.post_past]; exact List.mem_cons_self)
  exact absurd hm (by simp [Moment.steady])

lemma fail_relays (hs : s.state = .subscribed) (why : Failure) :
    (s.fail t now why).Ensures Traffic.surroundings (fun s' q' => s'.Relays g relayed q') q := by
  refine (ensures_true s.teardown q).bind fun _ q _ => ?_
  rintro _ _ ⟨es, rfl⟩
  exact transition_relays now (by simp [hs])

lemma lose_relays (hs : s.state = .subscribed) :
    (s.lose t now).Ensures Traffic.surroundings (fun s' q' => s'.Relays g relayed q') q := by
  rintro _ _ ⟨es, rfl⟩
  exact transition_relays now (by simp [hs])

lemma publishPending_relays (h : s.Relays g relayed q) :
    s.publishPending.Ensures Traffic.surroundings (fun s' q' => s'.Relays g relayed q') q := by
  unfold publishPending
  split
  · exact h
  rintro ok _ ⟨es, rfl⟩
  have h := Traffic.others_keep (K := s.Relays g relayed) (fun _ e h => h.others e) es h
  cases ok with
  | true => exact fun hst => ⟨⟨(h hst).1.1, (h hst).1.2, (h hst).1.3, (h hst).1.4⟩, (h hst).2⟩
  | false => exact h

lemma update_relays (h : s.Relays g relayed q) (linkUp : Bool) :
    (s.update t linkUp now).Ensures Traffic.surroundings (fun s' q' => s'.Relays g relayed q') q := by
  by_cases hst : q.Steady
  · obtain ⟨hc, hrun, hs, -⟩ := (h hst).1
    unfold update
    rw [if_neg (by simp [hc, hrun])]
    split
    · rw [if_neg (by simp [hs])]
      exact (ensures_true s.teardown q).bind fun _ q _ => transition_relays now (by simp [hs])
    · rw [hs]
      exact publishPending_relays h
  · exact relays_of_unsteady hst _ _

lemma publish_relays (h : s.Relays g relayed q) (l : LockState) (d : DoorState) :
    (s.publish l d).Ensures Traffic.surroundings (fun s' q' => s'.Relays g relayed q') q := by
  have h' : Relays g relayed { s with lock := l, door := d, dirty := true } q := fun hst =>
    ⟨⟨(h hst).1.1, (h hst).1.2, (h hst).1.3, (h hst).1.4⟩, (h hst).2⟩
  unfold publish
  dsimp only
  split
  · exact publishPending_relays h'
  · exact h'

/-- A command of the broker is posted again, for the device to carry out. -/
lemma receive_relays (h : s.Relays g relayed q) (payload : Bytes) :
    (s.receive payload now).Ensures Traffic.surroundings (fun s' q' =>
      s'.Relays g (relayed ++ (LockState.ofCommand? payload).toList) q') q := by
  unfold receive
  cases hl : LockState.ofCommand? payload with
  | none =>
    rintro _ _ ⟨es, rfl⟩
    rw [Option.toList_none, List.append_nil]
    exact Traffic.others_keep (K := s.Relays g relayed) (fun _ e h => h.others e) es h
  | some l =>
    rintro ok _ ⟨es, -, rfl⟩
    have h := Traffic.others_keep (K := s.Relays g relayed) (fun _ e h => h.others e) es h
    have h' : s.Relays g (relayed ++ [l])
        ((q.others es).post true { kind := .lockCommand, time := now, arg := l.code }) := by
      intro hst
      obtain ⟨hs, hr⟩ := h hst.of_post
      refine ⟨hs, ?_⟩
      rw [Traffic.post_past, inTurn_cons, hr, Moment.relayed?, Event.command?_relayed hl]
      rfl
    cases ok with
    | true => exact h'
    | false =>
      rintro _ _ ⟨es, rfl⟩
      exact Traffic.others_keep (K := s.Relays g (relayed ++ [l])) (fun _ e h => h.others e) es h'

/-- A result of the transport either ends the subscription, or is a message, or changes nothing. -/
lemma handle_relays (h : s.Relays g relayed q) (e : Event) :
    (s.handle t e now).Ensures Traffic.surroundings (fun s' q' =>
      s'.Relays g (relayed ++ (e.brokered? g).toList) q') q := by
  by_cases hst : q.Steady
  swap
  · exact relays_of_unsteady hst _ _
  obtain ⟨hc, hrun, hs, hg⟩ := (h hst).1
  unfold handle
  rw [if_neg (by simp [hc, hrun]), hg]
  by_cases harg : e.arg = g
  swap
  · rw [if_pos harg, Event.brokered?, if_neg fun he => harg he.2, Option.toList_none, List.append_nil]
    exact h
  rw [if_neg (not_not.2 harg)]
  by_cases hk : e.kind = .message
  · rw [Event.brokered?, if_pos ⟨hk, harg⟩, hk]
    dsimp only
    rw [if_pos hs]
    exact receive_relays now h _
  rw [Event.brokered?, if_neg fun he => hk he.1, Option.toList_none, List.append_nil]
  cases he : e.kind with
  | message => exact absurd he hk
  | publishFailed => simp [hs, SessionState.announced, fail_relays t now hs]
  | transportLost => simp [hs, SessionState.active, lose_relays t now hs]
  | _ => simp [hs, h]

end Session

namespace Device

variable {g : UInt8} {relayed : List LockState} {d : Device} {q : Traffic} (now : Clock)

lemma mute_of_button (c : Hardware.Call) (h : Button.Asks c) : Hardware.Mute c := by
  cases c <;> simp_all [Button.Asks, Hardware.Mute, Event.command?]

lemma mute_of_link (c : Hardware.Call) (h : Link.Asks c) : Hardware.Mute c := by
  cases c <;> simp_all [Link.Asks, Hardware.Mute, Event.command?]

lemma mute_of_indicator (c : Hardware.Call) (h : Indicator.Asks c) : Hardware.Mute c := by
  cases c <;> trivial

lemma mute_of_store (c : Hardware.Call) (h : Store.Asks c) : Hardware.Mute c := by
  cases c <;> trivial

lemma mute_of_contact (c : Hardware.Call) (h : Contact.Asks c) : Hardware.Mute c := by
  cases c <;> trivial

lemma tick_relays (h : d.session.Relays g relayed q) (hr : d.rebootPending = false) :
    (d.tick now).Ensures Traffic.surroundings (fun d' q' => d'.session.Relays g relayed q') q := by
  rw [tick_eq now hr]
  refine (h.ensures (d.strike.sample_confined now mute_of_contact (fun _ => trivial)
    fun _ _ => rfl)).bind ?_
  rintro strike q ⟨-, h⟩
  refine (h.ensures (p := Hardware.pinRead Pin.button) ⟨trivial, fun _ => trivial⟩).bind ?_
  rintro high q ⟨-, h⟩
  refine (h.ensures ((d.button.tick_confined _ _ _).mono mute_of_button fun _ => id)).bind ?_
  rintro button q ⟨-, h⟩
  refine (h.ensures ((d.link.update_confined _ _).mono mute_of_link fun _ => id)).bind ?_
  rintro link q ⟨-, h⟩
  refine (Session.update_relays d.timing now h _).bind fun session q h => ?_
  refine (h.ensures ((d.indicator.update_confined _ _).mono mute_of_indicator fun _ => id)).bind ?_
  exact fun _ _ h => h.2

lemma goOffline_mute (d : Device) : d.goOffline.Confined Hardware.Mute fun _ => True := by
  have hsession : (d.session.shutdown d.timing).Confined Hardware.Mute fun _ => True := by
    simp [Session.shutdown, Session.teardown, Hardware.Mute]
  refine hsession.bind fun session _ => ?_
  exact (d.link.shutdown_confined.mono mute_of_link fun _ => id).bind fun _ _ => trivial

lemma reboot_mute (d : Device) (why : RebootReason) :
    (d.reboot why).Confined Hardware.Mute (·.rebootPending = true) := by
  unfold reboot
  split
  · rename_i hd
    exact hd
  · exact ⟨trivial, fun _ => ⟨trivial, fun _ => rfl⟩⟩

/-- A submission either changes nothing of the session or leads to a restart. -/
lemma applySubmission_mute (d : Device) : d.applySubmission.Confined Hardware.Mute fun d' =>
    d'.rebootPending = false → d'.session = d.session := by
  refine ⟨trivial, fun taken => ?_⟩
  cases taken with
  | none => exact ⟨trivial, fun _ _ => rfl⟩
  | some s =>
    change (ite _ _ _ : Program Hardware Device).Confined _ _
    split
    · exact ⟨trivial, fun _ _ => rfl⟩
    refine (Store.save_confined _).within mute_of_store fun failure _ => ?_
    cases failure with
    | some e => exact ⟨trivial, fun _ _ => rfl⟩
    | none =>
      refine (goOffline_mute d).bind fun d' _ => (reboot_mute d' _).mono (fun _ => id) ?_
      exact fun _ hd hn => absurd hd (by simp [hn])

lemma factoryReset_mute (d : Device) (source : UInt8) :
    (d.factoryReset source).Confined Hardware.Mute (·.rebootPending = true) := by
  refine ⟨trivial, fun _ => (goOffline_mute d).bind fun d' _ => ?_⟩
  refine (eraseWithin_confined _ _).within mute_of_store fun erased _ => ?_
  cases erased with
  | true => exact reboot_mute _ _
  | false => exact ⟨trivial, fun _ => reboot_mute _ _⟩

lemma commandLock_mute (d : Device) (arg : UInt8) :
    (d.commandLock arg).Confined Hardware.Mute (·.session = d.session) := by
  unfold commandLock
  split
  · exact ⟨trivial, fun _ => rfl⟩
  · exact (d.strike.set_confined (P := Hardware.Mute) d.now ⟨arg⟩ (fun _ _ => trivial)
      (fun _ => trivial) rfl).bind fun _ _ => rfl

/-- A message has its command relayed; nothing else relays one. -/
lemma react_relays (h : d.session.Relays g relayed q) (e : Event) :
    (d.react e).Ensures Traffic.surroundings (fun d' q' => d'.rebootPending = false →
      d'.session.Relays g (relayed ++ (e.brokered? g).toList) q') q := by
  have hhandle : (d.session.handle d.timing e d.now >>= fun session =>
      pure { d with session := session }).Ensures Traffic.surroundings (fun d' q' =>
        d'.rebootPending = false →
          d'.session.Relays g (relayed ++ (e.brokered? g).toList) q') q :=
    (Session.handle_relays d.timing d.now h e).bind fun _ _ h _ => h
  by_cases hm : e.kind = .message
  · simpa only [react, hm] using hhandle
  rw [Event.brokered?, if_neg fun he => hm he.1, Option.toList_none, List.append_nil] at hhandle ⊢
  have hsame {p : Program Hardware Device}
      (hp : p.Confined Hardware.Mute fun d' => d'.rebootPending = false → d'.session = d.session) :
      p.Ensures Traffic.surroundings (fun d' q' => d'.rebootPending = false →
        d'.session.Relays g relayed q') q :=
    (h.ensures hp).mono fun _ _ h hr => h.1 hr ▸ h.2
  unfold react
  cases hk : e.kind with
  | doorChanged =>
    rintro _ _ ⟨es, rfl⟩
    have h := Traffic.others_keep (K := d.session.Relays g relayed) (fun _ e h => h.others e) es h
    exact (Session.publish_relays h d.strike.lock ⟨e.arg⟩).bind fun _ _ h _ => h
  | lockChanged =>
    rintro _ _ ⟨es, rfl⟩
    have h := Traffic.others_keep (K := d.session.Relays g relayed) (fun _ e h => h.others e) es h
    exact (Session.publish_relays h d.strike.lock d.door).bind fun _ _ h _ => h
  | lockCommand => exact hsame ((commandLock_mute d _).mono (fun _ => id) fun _ h _ => h)
  | externalLockCommand => exact hsame ((commandLock_mute d _).mono (fun _ => id) fun _ h _ => h)
  | resetRequested =>
    exact hsame ((factoryReset_mute d _).mono (fun _ => id) fun _ h hn => absurd h (by simp [hn]))
  | configSubmitted => exact hsame (applySubmission_mute d)
  | linkChanged => exact hsame ⟨trivial, fun _ _ => rfl⟩
  | sessionChanged => exact hsame ⟨trivial, fun _ _ => rfl⟩
  | unknown _ => exact fun _ => h
  | message => exact absurd hk hm
  | _ => exact hhandle

lemma handle_relays (h : d.session.Relays g relayed q) (hr : d.rebootPending = false) (e : Event) :
    (d.handle e).Ensures Traffic.surroundings (fun r q' => r.2.rebootPending = false →
      r.2.session.Relays g (relayed ++ (e.brokered? g).toList) q') q := by
  rw [handle_eq hr]
  refine (react_relays h e).bind fun d' q h => ?_
  unfold conclude
  refine (ensures_ite _ _ _ _ _).2 ⟨fun hd hn => absurd hn (by simp [hd]), fun hd => ?_⟩
  have h := h (by simpa using hd)
  have hrefresh : (d'.refresh d'.now).Confined Hardware.Mute (·.session = d'.session) :=
    ((d'.indicator.apply_confined _ _).mono mute_of_indicator fun _ => id).bind fun _ _ => rfl
  refine (h.ensures hrefresh).bind ?_
  rintro d'' q ⟨hs, h⟩ -
  exact hs ▸ h

lemma handle_lock (hr : d.rebootPending = false) (e : Event) :
    (d.handle e).Gives (·.2.strike.lock = e.command?.getD d.strike.lock) := by
  cases he : e.command? with
  | none =>
    refine (handle_idle fun _ => he).mono (fun _ _ => trivial) fun r hheld => ?_
    exact congrArg (·.2.2) hheld
  | some l =>
    rw [handle_command hr he]
    have hset : (d.strike.set l d.now).Gives (·.lock = l) :=
      d.strike.set_confined d.now l (fun _ _ => trivial) (fun _ => trivial) trivial
    refine hset.bind fun strike hl => (conclude_confined rfl).mono (fun _ _ => trivial) fun r hr => ?_
    have hstrike : r.2.strike = strike := congrArg Prod.fst hr.1
    rw [hstrike, hl]
    rfl

/-! ### The commands in turn -/

/-- From a moment on, with a lock state and events in the queue then: the queue is orderly, the
strike has the last command that left the queue, and the session relayed the commands in the
messages that left it. -/
structure Obeys (l : LockState) (queue : List Event) (g : UInt8) (d : Device) (q : Traffic) :
    Prop where
  orderly : q.Orderly queue
  carried : d.rebootPending = false → d.strike.lock =
    (direct (inTurn Moment.left? q.past)).getLast?.getD l
  relays : d.rebootPending = false →
    d.session.Relays g (brokered g (inTurn Moment.left? q.past)) q

namespace Obeys

variable {l : LockState} {queue : List Event}

lemma others (h : d.Obeys l queue g q) (e : Event) : d.Obeys l queue g (q.post false e) := by
  have hleft : inTurn Moment.left? (q.post false e).past = inTurn Moment.left? q.past := by
    rw [Traffic.post_past, inTurn_cons]
    exact List.append_nil _
  refine ⟨h.orderly.post false e, ?_, ?_⟩
  · rw [hleft]
    exact h.carried
  · rw [hleft]
    exact fun hr => (h.relays hr).others e

lemma tick (h : d.Obeys l queue g q) :
    (d.tick now).Ensures Traffic.surroundings (Obeys l queue g) q := by
  cases hr : d.rebootPending with
  | true =>
    rw [tick_pending now hr]
    exact h
  | false =>
    have hheld : (d.tick now).Gives (·.strike.held = d.strike.held) :=
      (tick_idle now).mono (fun _ _ => trivial) fun _ => id
    refine ((h.orderly.ensures rfl (d.tick now)).and
      ((tick_relays now (h.relays hr) hr).and (hheld.anyhow q))).mono ?_
    rintro d' q' ⟨⟨horderly, hleft⟩, hrelays, hheld⟩
    have hlock : d'.strike.lock = d.strike.lock := congrArg (·.2.2) hheld
    rw [← hleft] at hrelays
    refine ⟨horderly, fun _ => ?_, fun _ => hrelays⟩
    rw [hlock, h.carried hr, hleft]

lemma handle (h : d.Obeys l queue g q) {e : Event} {rest : List Event} (hq : q.queue = e :: rest) :
    (d.handle e).Ensures Traffic.surroundings (fun r q' => r.2.Obeys l queue g q')
      { q with queue := rest, past := .handled e :: q.past } := by
  have horderly := h.orderly.pump hq
  cases hr : d.rebootPending with
  | true =>
    rw [handle_pending hr]
    have hdue {p : Prop} (hn : d.rebootPending = false) : p := absurd (hr.symm.trans hn) nofun
    exact ⟨horderly, hdue, hdue⟩
  | false =>
    have hstart : d.session.Relays g (brokered g (inTurn Moment.left? q.past))
        { q with queue := rest, past := .handled e :: q.past } := by
      intro hst
      obtain ⟨hs, hrel⟩ := h.relays hr fun m hm => hst m (List.mem_cons_of_mem _ hm)
      exact ⟨hs, by simpa [Moment.relayed?] using hrel⟩
    have hlock := (handle_lock hr e).anyhow (S := Traffic.surroundings)
      { q with queue := rest, past := .handled e :: q.past }
    refine ((horderly.ensures rfl (d.handle e)).and ((handle_relays hstart hr e).and hlock)).mono ?_
    rintro ⟨_, d'⟩ q' ⟨⟨horderly, hleft⟩, hrelays, hlock⟩
    have hleft : inTurn Moment.left? q'.past = inTurn Moment.left? q.past ++ [e] := by
      rw [hleft]
      simp [Moment.left?]
    refine ⟨horderly, fun _ => ?_, fun hn => ?_⟩
    · rw [hlock, h.carried hr, hleft, direct_append, direct_singleton, List.getLast?_append]
      cases e.command? <;> rfl
    · rw [hleft, brokered_append, brokered_singleton]
      exact hrelays hn

/-- From here on, with nothing kept of what came before. -/
lemma of_speaks (hs : d.session.Speaks g) (q : Traffic) :
    d.Obeys d.strike.lock q.queue g { q with past := [] } where
  orderly := by simp [Traffic.Orderly, inTurn]
  carried _ := rfl
  relays _ _ := ⟨hs, rfl⟩

end Obeys

/-- What enters the queue commands what the session relays, if no post of it is refused and no other
producer commands anything. -/
lemma direct_entered {past : List Moment} (hheard : ∀ m ∈ past, m.heard = true)
    (hplaced : direct (inTurn Moment.placed? past) = []) :
    direct (inTurn Moment.entered? past) = inTurn Moment.relayed? past := by
  induction past with
  | nil => rfl
  | cons m past ih =>
    obtain ⟨hm, hheard⟩ := List.forall_mem_cons.1 hheard
    rw [inTurn_cons, direct_append, List.append_eq_nil_iff] at hplaced
    rw [inTurn_cons, inTurn_cons, direct_append, ih hheard hplaced.1]
    refine congrArg _ ?_
    cases m with
    | handled e => rfl
    | posted own e ok =>
      -- only an accepted post enters, and only the device's own is relayed
      cases own with
      | true =>
        cases ok with
        | true => exact direct_singleton e
        | false => simp_all [Moment.entered?, Moment.relayed?, Moment.heard, direct]
      | false =>
        cases ok with
        | true => exact hplaced.2
        | false => rfl

/-- **Lock commands in turn**: from any state on in which the session is subscribed, while it stays
so and until no event is left in the queue, the lock commands take effect in the order in which
the events that carry them out enter the queue. The broker's are in the messages, and each message
has one relayed, in the order of the messages. So when no post of them is refused and no other
producer adds to the commands that are in the queue, the last message decides, and without a message
the last command of the console. -/
theorem commands_in_turn (t : Timing) (now : Clock) (capacity : Nat) (turns later : List Turn) :
    ((new t).start now).Ensures Traffic.surroundings (Always (fun d q =>
      d.rebootPending = false → d.session.state = .subscribed →
        Always (fun d' q' => d'.rebootPending = false → q'.Steady → q'.queue = [] →
          d'.strike.lock = (direct (q.queue ++ inTurn Moment.entered? q'.past)).getLast?.getD
            d.strike.lock ∧
          inTurn Moment.relayed? q'.past =
            brokered d.session.generation (q.queue ++ inTurn Moment.entered? q'.past) ∧
          ((∀ m ∈ q'.past, m.heard = true) → direct (inTurn Moment.placed? q'.past) = [] →
            d'.strike.lock = (direct q.queue ++ brokered d.session.generation
              (q.queue ++ inTurn Moment.entered? q'.past)).getLast?.getD d.strike.lock))
          later d { q with past := [] }) turns) { capacity } := by
  have hprepared {d : Device} {q : Traffic} (hd : d.Prepared) :
      Always (fun d _ => d.Prepared) turns d q :=
    always_of_keep (fun d q now h => (tick_prepared now h).anyhow q)
      (fun d q e queue _ h => (handle_prepared h e).anyhow _) (fun _ _ _ => id) turns hd
  refine ((start_prepared now t).anyhow _).mono fun d q hd => ?_
  refine (hprepared hd).mono fun d q hd hr hs => ?_
  have hspeaks : d.session.Speaks d.session.generation :=
    ⟨(hd hr).configured (by simp [hs]), (hd hr).running, hs, rfl⟩
  refine (always_of_keep (fun d q now h => h.tick now) (fun d q e queue hq h => h.handle hq)
    (fun d q e h => h.others e) later (Obeys.of_speaks hspeaks q)).mono fun d' q' h hr' hst hq' => ?_
  have hleft : inTurn Moment.left? q'.past ++ q'.queue =
      q.queue ++ inTurn Moment.entered? q'.past := h.orderly
  rw [hq', List.append_nil] at hleft
  have hlock := h.carried hr'
  have hrelayed := (h.relays hr' hst).2
  rw [hleft] at hlock hrelayed
  refine ⟨hlock, hrelayed, fun hheard hplaced => ?_⟩
  rw [hlock, direct_append, direct_entered hheard hplaced, hrelayed]

/-! ### A message overtaken -/

/-- The commands in events of either kind, in the order of the events. -/
def asked (g : UInt8) (es : List Event) : List LockState :=
  es.filterMap fun e => e.command?.or (e.brokered? g)

/-- What a station needs to be told. -/
def atHome : Config where
  wifiSsid := .ofBytes (ascii "home")
  wifiPass := .ofBytes (ascii "secret")
  mqttHost := .ofBytes (ascii "broker")
  mqttPass := .ofBytes (ascii "pw")
  deviceId := .ofBytes (ascii "front1")
  deviceName := .ofBytes (ascii "Door")

end Device

/-- The queue among hardware with a configuration in storage and a network that is there, and
otherwise calm. -/
def Traffic.homed : Environment Hardware Traffic where
  respond
    | .storedLength key, q => (if key = Store.Slot.a.key then Record.size else 0, q)
    | .storedRead key _, q => (if key = Store.Slot.a.key then Record.encode Device.atHome 1 else [], q)
    | .radioStatus, q => (.up, q)
    | c, q => calm.respond c q

lemma Traffic.homed_follows : homed.Follows surroundings id := by
  intro c q
  cases c with
  | storedLength key => exact ⟨[], rfl⟩
  | storedRead key room => exact ⟨[], rfl⟩
  | radioStatus => exact ⟨[], rfl⟩
  | _ => exact calm_follows _ q

namespace Device

/-- The turns that bring a device from its start to the subscription, its transport answering. -/
def subscribing : List Turn :=
  [.pump, .tick 10, .pump, .pump, .others [{ kind := .transportUp, time := 10, arg := 1 }], .pump,
    .pump, .others [{ kind := .subscribed, time := 10, arg := 1 }], .pump, .pump]

/-- A message that asks to lock, then a command of the console to unlock, and all is handled. -/
def overtaking : List Turn :=
  [.others [{ kind := .message, time := 10, arg := 1, text := .ofBytes (ascii "LOCK") },
    { kind := .externalLockCommand, time := 10, arg := 1 }], .pump, .pump, .pump, .pump, .pump]

instance (q : Traffic) : Decidable q.Steady :=
  inferInstanceAs (Decidable (∀ m ∈ q.past, m.steady = true))

/-- A device that has subscribed. -/
def listening : Device × Traffic :=
  let started := ((new {}).start 0).run Traffic.homed { capacity := 16 }
  live Traffic.homed subscribing started.1 started.2

/-- What it comes to from there on. -/
def overtaken : Device × Traffic :=
  live Traffic.homed overtaking listening.1 { listening.2 with past := [] }

set_option maxRecDepth 100000 in
/-- The order of arrival does not decide: the console asks last, and the door is locked in the end. -/
theorem message_overtaken :
    Traffic.homed.Follows Traffic.surroundings id ∧
      (listening.1.rebootPending = false ∧ listening.1.session.state = .subscribed) ∧
      (overtaken.1.rebootPending = false ∧ overtaken.2.Steady ∧
        (∀ m ∈ overtaken.2.past, m.heard = true) ∧ overtaken.2.queue = []) ∧
      asked listening.1.session.generation
        (listening.2.queue ++ inTurn Moment.placed? overtaken.2.past) = [.locked, .unlocked] ∧
      overtaken.1.strike.lock = .locked := by
  refine ⟨Traffic.homed_follows, ?_⟩
  decide +kernel

end Device

end DoorControl
