import DoorControl.Proofs.Offset
import DoorControl.Proofs.Device.Traffic

/-!
The device under a clock that is `k` ahead, on the same input: it does the same as under the other
clock, and only the events that it posts bear the later time.
-/

namespace DoorControl

open Bytes Program Hardware

variable (k : Clock)

namespace Device

/-- The device under the later clock, with a link and a session. -/
def later (d : Device) (link : Link) (session : Session) : Device :=
  { d with
    strike := d.strike.later k
    link := link
    session := session
    indicator := d.indicator.later k
    lastTick := d.lastTick + k
    now := d.now + k }

/-- The two devices are one under the two clocks. -/
def Later (d d' : Device) : Prop :=
  ∃ link session, d' = d.later k link session ∧ d.link.Later k link ∧ d.session.Later k session

/-- An operation under the two clocks. The events that are handled come from all sides; they bear
any time. -/
inductive Step.Later : Step → Step → Prop
  | tick (now : Clock) : Later (.tick now) (.tick (now + k))
  | handle (e : Event) (time : Clock) : Later (.handle e) (.handle (e.stamped time))
  | requestLock (l : LockState) (now : Clock) :
    Later (.requestLock l now) (.requestLock l (now + k))
  | submit (s : Submission) (now : Clock) : Later (.submit s now) (.submit s (now + k))
  | requestReset (now : Clock) : Later (.requestReset now) (.requestReset (now + k))

variable {k} {d d' : Device} (now : Clock)

lemma Later.pending (h : d.Later k d') : d'.rebootPending = d.rebootPending := by
  obtain ⟨_, _, rfl, _⟩ := h
  rfl

lemma Later.time (h : d.Later k d') : d'.now = d.now + k := by
  obtain ⟨_, _, rfl, _⟩ := h
  rfl

lemma Later.shows (h : d.Later k d') :
    d'.lightPattern = d.lightPattern ∧ d'.systemState = d.systemState := by
  obtain ⟨_, _, rfl, ⟨_, _, rfl, _⟩, ⟨_, _, rfl, _⟩⟩ := h
  exact ⟨rfl, rfl⟩

lemma Later.snapshot_eq (h : d.Later k d') : d'.snapshot = d.snapshot := by
  obtain ⟨_, _, rfl, _⟩ := h
  rfl

lemma Later.repacked (h : d.Later k d') :
    Later k { d with snapshot := .pack d.systemState }
      { d' with snapshot := .pack d'.systemState } := by
  rw [h.shows.2]
  obtain ⟨link, session, rfl, hlink, hsession⟩ := h
  exact ⟨link, session, rfl, hlink, hsession⟩

lemma reboot_later (h : d.Later k d') (why : RebootReason) :
    (d.reboot why).Alike (Hardware.later k) (Later k) (d'.reboot why) := by
  have hstay := h
  obtain ⟨link, session, rfl, hlink, hsession⟩ := h
  refine alike_ite .rfl (fun _ => hstay) fun _ => ?_
  refine timeless_call (c := .log _) trivial fun _ => timeless_call (c := .restart) trivial fun _ => ?_
  exact ⟨link, session, rfl, hlink, hsession⟩

lemma refresh_later (h : d.Later k d') :
    (d.refresh now).Alike (Hardware.later k) (Later k) (d'.refresh (now + k)) := by
  have hshows := h.shows.1
  obtain ⟨link, session, rfl, hlink, hsession⟩ := h
  unfold refresh
  rw [hshows]
  refine (d.indicator.apply_later k d.lightPattern now).bind ?_
  rintro ⟨changed, indicator⟩ _ rfl
  have h' : Later k { d with indicator } ({ d with indicator }.later k link session) :=
    ⟨link, session, rfl, hlink, hsession⟩
  exact h'.repacked

lemma startSetup_later (h : d.Later k d') (hl : d.link.state = .uninitialized)
    (hl' : d'.link = d.link) :
    (d.startSetup now).Alike (Hardware.later k) (Later k) (d'.startSetup (now + k)) := by
  obtain ⟨link, session, rfl, -, hsession⟩ := h
  obtain rfl : link = d.link := hl'
  refine (d.link.enterSetup_later k now hl).bind ?_
  rintro ⟨opened, link⟩ ⟨_, link'⟩ ⟨rfl, hlink⟩
  have h' : Later k { d with link } ({ d with link }.later k link' session) :=
    ⟨link', session, rfl, hlink, hsession⟩
  exact alike_ite .rfl (fun _ => h') fun _ => reboot_later h' _

/-- A device takes up its role with no time set in the link and the session. -/
lemma startRole_later (hl : d.link.state = .uninitialized) (hs : d.session.state = .idle) :
    (d.startRole now).Alike (Hardware.later k) (Later k)
      ((d.later k d.link d.session).startRole (now + k)) := by
  have hlink : d.link.Later k d.link := ⟨_, _, rfl, by simp [hl], by simp [hl]⟩
  refine alike_ite .rfl (fun _ => ?_) fun _ => ?_
  · refine timeless_call (c := .log _) trivial fun _ => ?_
    exact startSetup_later now ⟨_, _, rfl, hlink, Session.later_self hs⟩ hl rfl
  refine timeless_bind (d.session.configure_timeless d.config) ?_
  rintro ⟨usable, session⟩ hconfigured
  have hsession : session.Later k session := Session.later_self (hconfigured.trans hs)
  refine alike_ite .rfl (fun _ => ?_) fun _ => ?_
  · refine timeless_call (c := .log _) trivial fun _ => ?_
    exact startSetup_later (d := { d with session, hasConfig := false }) now
      ⟨_, _, rfl, hlink, hsession⟩ hl rfl
  refine timeless_call (c := .log _) trivial fun _ => ?_
  refine (d.link.start_later k d.timing now hl d.config).bind ?_
  rintro ⟨started, link⟩ ⟨_, link'⟩ ⟨rfl, hlink⟩
  have h' : Later k { d with session, link } ({ d with session, link }.later k link' session) :=
    ⟨link', session, rfl, hlink, hsession⟩
  exact alike_ite .rfl (fun _ => h') fun _ => reboot_later h' _

/-- From the start on, every time that is read was set under the clock of the run. -/
lemma start_later (t : Timing) :
    ((new t).start now).Alike (Hardware.later k) (Later k) ((new t).start (now + k)) := by
  refine ((new t).indicator.start_later k now).bind ?_
  rintro indicator _ rfl
  refine timeless_call (c := .deviceId _) trivial fun deviceId => ?_
  refine timeless_call (c := .pinInput _) trivial fun _ => ?_
  refine timeless_bind (p := Store.load) (M := fun _ => True)
    (Store.load_confined.mono (fun c hc => ?_) fun _ => id) fun stored _ => ?_
  · cases c <;> trivial
  refine ((new t).strike.start_later k _ now).bind ?_
  rintro strike _ rfl
  exact (startRole_later (d := { new t with
    now := now
    lastTick := now
    indicator := indicator
    deviceId := deviceId
    config := stored.getD {}
    hasConfig := stored.isSome
    strike := strike }) now rfl rfl).bind fun _ _ h => refresh_later now h

lemma tick_later (h : d.Later k d') :
    (d.tick now).Alike (Hardware.later k) (Later k) (d'.tick (now + k)) := by
  have hstay := h
  obtain ⟨link, session, rfl, hlink, hsession⟩ := h
  refine alike_ite .rfl (fun _ => hstay) fun _ => ?_
  refine (d.strike.sample_later k now).bind ?_
  rintro strike _ rfl
  refine timeless_bind (p := Hardware.pinRead Pin.button) (M := fun _ => True)
    ⟨trivial, fun _ => trivial⟩ fun high _ => ?_
  have hdt : now + k - (d.lastTick + k) = now - d.lastTick := Clock.later_sub k now _
  refine Alike.bind (M := fun r r' => r' = r) ?_ ?_
  · change (d.button.tick _ _ now).Alike _ _ (d.button.tick _ (now + k - (d.lastTick + k)) _)
    rw [hdt]
    exact d.button.tick_later k _ _ now
  rintro button _ rfl
  refine (Link.update_later k d.timing now hlink).bind fun link link' hlink => ?_
  refine Alike.bind (M := Session.Later k) ?_ fun session session' hsession => ?_
  · rw [hlink.state_eq]
    exact Session.update_later k d.timing now hsession _
  refine (d.indicator.update_later k d.timing now).bind ?_
  rintro indicator _ rfl
  exact ⟨link', session', rfl, hlink, hsession⟩

lemma publishState_later (h : d.Later k d') :
    d.publishState.Alike (Hardware.later k) (Later k) d'.publishState := by
  obtain ⟨link, session, rfl, hlink, hsession⟩ := h
  refine (Session.publish_later k hsession d.strike.lock d.door).bind fun session session' h => ?_
  exact ⟨link, session', rfl, hlink, h⟩

lemma goOffline_later (h : d.Later k d') :
    d.goOffline.Alike (Hardware.later k) (Later k) d'.goOffline := by
  obtain ⟨link, session, rfl, hlink, hsession⟩ := h
  refine (Session.shutdown_later k d.timing hsession).bind fun session session' hsession => ?_
  refine (Link.shutdown_later k hlink).bind fun link link' hlink => ?_
  exact ⟨link', session', rfl, hlink, hsession⟩

lemma timeless_of_store (c : Hardware.Call) (h : Store.Asks c) : Timeless c := by
  cases c <;> trivial

lemma applySubmission_later (h : d.Later k d') :
    d.applySubmission.Alike (Hardware.later k) (Later k) d'.applySubmission := by
  have hstay := h
  have hoffline := (goOffline_later h).bind fun _ _ h => reboot_later h .configSaved
  obtain ⟨link, session, rfl, hlink, hsession⟩ := h
  refine timeless_call (c := .take) trivial fun taken => ?_
  cases taken with
  | none => exact timeless_call (c := .log _) trivial fun _ => hstay
  | some s =>
    refine alike_ite .rfl (fun _ => timeless_call (c := .log _) trivial fun _ => hstay) fun _ => ?_
    refine timeless_bind (p := Store.save (d.configWith s)) (M := fun _ => True)
      ((Store.save_confined _).mono timeless_of_store fun _ => id) fun failure _ => ?_
    cases failure with
    | some e => exact timeless_call (c := .log _) trivial fun _ => hstay
    | none => exact hoffline

lemma factoryReset_later (h : d.Later k d') (source : UInt8) :
    (d.factoryReset source).Alike (Hardware.later k) (Later k) (d'.factoryReset source) := by
  refine timeless_call (c := .log _) trivial fun _ => (goOffline_later h).bind ?_
  rintro d _ ⟨link, session, rfl, hlink, hsession⟩
  have h' : Later k { d with hasConfig := false }
      ({ d with hasConfig := false }.later k link session) := ⟨link, session, rfl, hlink, hsession⟩
  refine timeless_bind (p := eraseWithin (eraseAttempts d.timing) 1)
    ((eraseWithin_confined _ _).mono timeless_of_store fun _ => id) fun erased _ => ?_
  cases erased with
  | true => exact reboot_later h' _
  | false => exact timeless_call (c := .log _) trivial fun _ => reboot_later h' _

lemma commandLock_later (h : d.Later k d') (arg : UInt8) :
    (d.commandLock arg).Alike (Hardware.later k) (Later k) (d'.commandLock arg) := by
  have hstay := h
  obtain ⟨link, session, rfl, hlink, hsession⟩ := h
  refine alike_ite .rfl (fun _ => timeless_call (c := .log _) trivial fun _ => hstay) fun _ => ?_
  refine (d.strike.set_later k ⟨arg⟩ d.now).bind ?_
  rintro strike _ rfl
  exact ⟨link, session, rfl, hlink, hsession⟩

lemma sessionHandle_later (h : d.Later k d') (e : Event) (time : Clock) :
    (d.session.handle d.timing e d.now >>= fun session =>
      pure { d with session := session }).Alike (Hardware.later k) (Later k)
      (d'.session.handle d'.timing (e.stamped time) d'.now >>= fun session =>
        pure { d' with session := session }) := by
  obtain ⟨link, session, rfl, hlink, hsession⟩ := h
  refine (Session.handle_later k d.timing d.now hsession e time).bind fun session session' h => ?_
  exact ⟨link, session', rfl, hlink, h⟩

/-- The time of the last tick is the one that counts, not the one an event bears. -/
lemma react_later (h : d.Later k d') (e : Event) (time : Clock) :
    (d.react e).Alike (Hardware.later k) (Later k) (d'.react (e.stamped time)) := by
  have hstay := h
  unfold react
  rw [Event.stamped_kind]
  cases e.kind with
  | doorChanged =>
    obtain ⟨link, session, rfl, hlink, hsession⟩ := h
    refine timeless_call (c := .log _) trivial fun _ => ?_
    exact publishState_later (d := { d with door := ⟨e.arg⟩ }) ⟨link, session, rfl, hlink, hsession⟩
  | lockChanged => exact timeless_call (c := .log _) trivial fun _ => publishState_later h
  | lockCommand => exact commandLock_later h _
  | externalLockCommand => exact commandLock_later h _
  | resetRequested => exact factoryReset_later h _
  | configSubmitted => exact applySubmission_later h
  | linkChanged => exact timeless_call (c := .log _) trivial fun _ => hstay
  | sessionChanged => exact timeless_call (c := .log _) trivial fun _ => hstay
  | unknown _ => exact hstay
  | _ => exact sessionHandle_later h e time

lemma handle_later (h : d.Later k d') (e : Event) (time : Clock) :
    (d.handle e).Alike (Hardware.later k) (fun r r' => r'.1 = r.1 ∧ r.2.Later k r'.2)
      (d'.handle (e.stamped time)) := by
  refine alike_ite (by rw [h.pending]) (fun _ => ⟨rfl, h⟩) fun _ => ?_
  refine (react_later h e time).bind fun d d' h => ?_
  refine alike_ite (by rw [h.pending]) (fun _ => ⟨rfl, h⟩) fun _ => ?_
  rw [h.time]
  exact (refresh_later d.now h).bind fun _ _ h => ⟨rfl, h⟩

/-- **One operation** under the two clocks. -/
lemma act_later (h : d.Later k d') {s s' : Step} (hs : s.Later k s') :
    (d.act s).Alike (Hardware.later k) (Later k) (d'.act s') := by
  cases hs with
  | tick now => exact tick_later now h
  | handle e time => exact (handle_later h e time).bind fun _ _ h => h.2
  | requestLock l now =>
    exact post_bind { kind := .externalLockCommand, time := now, arg := l.code } fun _ => h
  | submit s now =>
    refine timeless_call (c := .offer s) trivial fun ok => ?_
    cases ok with
    | true => exact post_bind { kind := .configSubmitted, time := now } fun _ => h
    | false => exact h
  | requestReset now =>
    exact post_bind { kind := .resetRequested, time := now, arg := Event.fromConsole } fun _ => h

/-- A device that is started and then operated on. -/
def lifetime (t : Timing) (now : Clock) (steps : List Step) : Program Hardware Device := do
  let d ← (new t).start now
  steps.foldlM act d

lemma acts_later {steps steps' : List Step} (hs : List.Forall₂ (Step.Later k) steps steps')
    (h : d.Later k d') :
    (steps.foldlM act d).Alike (Hardware.later k) (Later k) (steps'.foldlM act d') := by
  induction hs generalizing d d' with
  | nil => exact h
  | cons hs _ ih => exact (act_later h hs).bind fun _ _ h => ih h

/-- **Only differences of times count**: under a clock that is `k` ahead, in surroundings that
answer the same, a device makes the same calls in the same order, log lines included. The events it
posts bear the later time, and nothing else tells the runs apart. -/
theorem lifetime_later {V W : Type} {rel : V → W → Prop} {E : Environment Hardware V}
    {E' : Environment Hardware W} (hE : E.Alike (Hardware.later k) rel E')
    {steps steps' : List Step} (hsteps : List.Forall₂ (Step.Later k) steps steps') (t : Timing)
    {v : V} {w : W} (hrel : rel v w) :
    let r := (lifetime t now steps).run E.recorded (v, [])
    let r' := (lifetime t (now + k) steps').run E'.recorded (w, [])
    r'.1.snapshot = r.1.snapshot ∧ r'.1.rebootPending = r.1.rebootPending ∧
      r'.2.2 = r.2.2.map (Exchange.later k) ∧ rel r.2.1 r'.2.1 := by
  have halike : (lifetime t now steps).Alike (Hardware.later k) (Later k)
      (lifetime t (now + k) steps') := (start_later now t).bind fun _ _ h => acts_later hsteps h
  obtain ⟨hd, hworld, hrecords⟩ := halike.run hE.recorded (v := (v, [])) (w := (w, [])) ⟨hrel, .nil⟩
  exact ⟨hd.snapshot_eq, hd.pending, later_records hrecords, hworld⟩

end Device

/-! ### The event queue under the later clock -/

/-- The moment as of the later clock. -/
def Moment.later : Moment → Moment
  | .posted own e accepted => .posted own (e.later k) accepted
  | .handled e => .handled (e.later k)

namespace Traffic

/-- The queue as of the later clock. -/
def later (q : Traffic) : Traffic where
  capacity := q.capacity
  queue := q.queue.map (Event.later k)
  past := q.past.map (Moment.later k)

lemma later_post (q : Traffic) (own : Bool) (e : Event) :
    (q.later k).post own (e.later k) = (q.post own e).later k := by
  by_cases hroom : q.queue.length < q.capacity <;>
    simp [post, later, Moment.later, hroom]

/-- Hardware that takes no notice of times serves under both clocks. -/
lemma calm_later : calm.Alike (Hardware.later k) (fun q q' => q' = q.later k) calm := by
  rintro c _ q _ rfl rfl
  cases c with
  | post e =>
    refine ⟨heq_of_eq ?_, later_post k q true e⟩
    change decide _ = decide ((q.queue.map _).length < _)
    rw [List.length_map]
    rfl
  | _ => exact ⟨HEq.rfl, rfl⟩

end Traffic

namespace Device

/-- A quarter of a second before the clock wraps. -/
def beforeWrap : Clock := 0xFFFFFF00

/-- A clock that wraps while the first blink is under way tells the device no more than one that
starts at zero. -/
theorem lifetime_later_wrap :
    let lock : Event := { kind := .externalLockCommand, time := 0, arg := 1 }
    let r := (lifetime {} 0 [.tick 40, .handle lock, .tick 600]).run Traffic.calm.recorded
      ({ capacity := 4 }, [])
    let r' := (lifetime {} (0 + beforeWrap) [.tick (40 + beforeWrap), .handle (lock.stamped 7),
      .tick (600 + beforeWrap)]).run Traffic.calm.recorded ({ capacity := 4 }, [])
    600 + beforeWrap < 40 + beforeWrap ∧
      r'.1.snapshot = r.1.snapshot ∧ r'.1.rebootPending = r.1.rebootPending ∧
      r'.2.2 = r.2.2.map (Exchange.later beforeWrap) ∧ r'.2.1 = r.2.1.later beforeWrap := by
  intro lock
  exact ⟨by decide, lifetime_later 0 (Traffic.calm_later beforeWrap)
    (.cons (.tick 40) (.cons (.handle lock 7) (.cons (.tick 600) .nil))) {} rfl⟩

end Device

end DoorControl
