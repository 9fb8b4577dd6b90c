import Mathlib.Data.List.TakeWhile
import DoorControl.Proofs.Debounce
import DoorControl.Proofs.Device.Traffic
import DoorControl.Proofs.Press

/-!
How long the button was seen pressed before a device requests a reset in its name, told from all the
looks at its pin. The ticks may come at any time.
-/

namespace DoorControl

open Program

/-- A look at the button: when it was taken, in milliseconds that never wrap, and whether the button
was pressed. -/
structure Look where
  time : Nat
  pressed : Bool
deriving DecidableEq

/-- The time of the present operation, the looks at the button so far and the requests of a reset in
its name, the newest first, each with the looks that it followed. -/
structure Vigil where
  now : Nat
  looks : List Look := []
  requests : List (Nat × List Look) := []

/-- A request of a reset in the name of the button. -/
def Event.pressed (e : Event) : Bool := e.kind = .resetRequested && e.arg = Event.fromButton

namespace Vigil

def look (v : Vigil) (pressed : Bool) : Vigil :=
  { v with looks := { time := v.now, pressed } :: v.looks }

def request (v : Vigil) : Vigil := { v with requests := (v.now, v.looks) :: v.requests }

/-- Some time later. -/
def after (v : Vigil) (gap : Nat) : Vigil := { v with now := v.now + gap }

/-- Surroundings that answer anything and keep the looks and the requests. -/
def surroundings : Surroundings Hardware Vigil where
  may
    | .pinRead pin, v, high, v' => v' = if pin = Pin.button then v.look (!high) else v
    | .post e, v, _, v' => v' = if e.pressed then v.request else v
    | _, v, _, v' => v' = v

/-- When the button was last seen released or, if it never was, when the device started. -/
def releasedAt (began : Nat) (looks : List Look) : Nat :=
  ((looks.find? (!·.pressed)).map (·.time)).getD began

end Vigil

namespace Device

/-- The same operation, with the clock read now. -/
def Step.at (now : Clock) : Step → Step
  | .tick _ => .tick now
  | .handle e => .handle e
  | .requestLock l _ => .requestLock l now
  | .submit s _ => .submit s now
  | .requestReset _ => .requestReset now

/-- Whatever the surroundings answer, `post` holds after operations with these gaps before them. -/
def Throughout (post : Vigil → Prop) : List (Nat × Step) → Device → Vigil → Prop
  | [], _, v => post v
  | (gap, s) :: rest, d, v => (d.act (s.at (.ofNat (v.now + gap)))).Ensures Vigil.surroundings
      (Throughout post rest) (v.after gap)

/-! ### Everything but the button -/

/-- The calls that neither look at the button nor request a reset in its name. -/
def Elsewhere : Hardware.Call → Prop
  | .pinRead pin => pin ≠ Pin.button
  | .post e => e.pressed = false
  | _ => True

lemma elsewhere_of {A : Hardware.Call → Prop} (hread : ∀ pin, ¬A (.pinRead pin))
    (hpost : ∀ e, A (.post e) → e.kind ≠ .resetRequested) (c : Hardware.Call) (hc : A c) :
    Elsewhere c := by
  cases c with
  | pinRead pin => exact (hread pin hc).elim
  | post e => simp [Elsewhere, Event.pressed, hpost e hc]
  | _ => trivial

lemma elsewhere_of_indicator : ∀ c, Indicator.Asks c → Elsewhere c := elsewhere_of nofun nofun

lemma elsewhere_of_link : ∀ c, Link.Asks c → Elsewhere c :=
  elsewhere_of nofun fun e (he : e.kind = _) => by simp [he]

lemma elsewhere_of_store : ∀ c, Store.Asks c → Elsewhere c := elsewhere_of nofun nofun

lemma elsewhere_of_session : ∀ c, Session.Asks c → Elsewhere c :=
  elsewhere_of nofun fun e he => by rcases he with he | he <;> simp [he]

/-- What a device has of the button, and the pin of its door contact. -/
def stance (d : Device) : Button × Clock × UInt8 := (d.button, d.lastTick, d.strike.contact.pin)

lemma stance_eq {d : Device} {b : Button} {last : Clock} {pin : UInt8} :
    d.stance = (b, last, pin) ↔
      d.button = b ∧ d.lastTick = last ∧ d.strike.contact.pin = pin := by
  simp [stance]

variable {d : Device} {a : Button × Clock × UInt8} (now : Clock)

lemma reboot_elsewhere (h : d.stance = a) (why : RebootReason) :
    (d.reboot why).Confined Elsewhere (·.stance = a) := by
  unfold reboot
  split
  · exact h
  · exact ⟨trivial, fun _ => ⟨trivial, fun _ => h⟩⟩

lemma refresh_elsewhere (h : d.stance = a) :
    (d.refresh now).Confined Elsewhere (·.stance = a) :=
  (d.indicator.apply_confined _ now).within elsewhere_of_indicator fun _ _ => h

lemma startSetup_elsewhere (h : d.stance = a) :
    (d.startSetup now).Confined Elsewhere (·.stance = a) := by
  refine (d.link.enterSetup_confined now).within elsewhere_of_link fun r _ => ?_
  dsimp only
  split
  · exact h
  · exact reboot_elsewhere (d := { d with link := r.2 }) h _

lemma startRole_elsewhere (h : d.stance = a) :
    (d.startRole now).Confined Elsewhere (·.stance = a) := by
  unfold startRole
  split
  · exact ⟨trivial, fun _ => startSetup_elsewhere now h⟩
  refine (Session.configure_confined rfl d.config).within elsewhere_of_session fun r _ => ?_
  dsimp only
  split
  · exact ⟨trivial, fun _ =>
      startSetup_elsewhere (d := { d with session := r.2, hasConfig := false }) now h⟩
  · refine ⟨trivial, fun _ => (Link.start_confined _ _ _ _).within elsewhere_of_link fun l _ => ?_⟩
    split
    · exact h
    · exact reboot_elsewhere (d := { d with session := r.2, link := l.2 }) h _

lemma goOffline_elsewhere (h : d.stance = a) : d.goOffline.Confined Elsewhere (·.stance = a) := by
  refine (Session.shutdown_confined d.timing rfl).within elsewhere_of_session fun _ _ => ?_
  exact d.link.shutdown_confined.within elsewhere_of_link fun _ _ => h

lemma applySubmission_elsewhere (h : d.stance = a) :
    d.applySubmission.Confined Elsewhere (·.stance = a) := by
  refine ⟨trivial, fun offered => ?_⟩
  cases offered with
  | none => exact ⟨trivial, fun _ => h⟩
  | some s =>
    change (ite _ _ _ : Program Hardware Device).Confined _ _
    split
    · exact ⟨trivial, fun _ => h⟩
    refine (Store.save_confined _).within elsewhere_of_store fun e _ => ?_
    cases e with
    | some e => exact ⟨trivial, fun _ => h⟩
    | none => exact (goOffline_elsewhere h).bind fun d h => reboot_elsewhere h _

lemma factoryReset_elsewhere (h : d.stance = a) (source : UInt8) :
    (d.factoryReset source).Confined Elsewhere (·.stance = a) := by
  refine ⟨trivial, fun _ => (goOffline_elsewhere h).bind fun d h => ?_⟩
  refine (eraseWithin_confined _ _).within elsewhere_of_store fun erased _ => ?_
  have hr := reboot_elsewhere (d := { d with hasConfig := false }) h .factoryReset
  cases erased with
  | true => exact hr
  | false => exact ⟨trivial, fun _ => hr⟩

lemma publishState_elsewhere (h : d.stance = a) :
    d.publishState.Confined Elsewhere (·.stance = a) :=
  (d.session.publish_confined _ _).within elsewhere_of_session fun _ _ => h

lemma report_elsewhere (tag : Bytes) {k : EventKind} (hk : k ≠ .resetRequested) (arg : UInt8) :
    (Hardware.postOrWarn tag { kind := k, time := now, arg }).Confined Elsewhere fun _ => True := by
  refine Hardware.postOrWarn_confined tag ?_ fun _ => trivial
  simp [Elsewhere, Event.pressed, hk]

lemma set_elsewhere (s : Strike) (l : LockState) :
    (s.set l now).Confined Elsewhere (·.contact = s.contact) :=
  ⟨trivial, fun _ => (report_elsewhere _ _ (by decide) _).bind fun _ _ => rfl⟩

lemma commandLock_elsewhere (h : d.stance = a) (arg : UInt8) :
    (d.commandLock arg).Confined Elsewhere (·.stance = a) := by
  unfold commandLock
  split
  · exact ⟨trivial, fun _ => h⟩
  · refine (set_elsewhere d.now d.strike ⟨arg⟩).bind fun strike hs => ?_
    rw [pure_eq, confined_done, ← h, stance, stance, hs]

lemma react_elsewhere (h : d.stance = a) (e : Event) :
    (d.react e).Confined Elsewhere (·.stance = a) := by
  have hsession : (d.session.handle d.timing e d.now >>= fun session =>
      pure { d with session := session }).Confined Elsewhere (·.stance = a) :=
    (Session.handle_confined _ _ rfl e).within elsewhere_of_session fun _ _ => h
  unfold react
  cases e.kind with
  | doorChanged => exact ⟨trivial, fun _ => publishState_elsewhere (d := { d with door := _ }) h⟩
  | lockChanged => exact ⟨trivial, fun _ => publishState_elsewhere h⟩
  | lockCommand => exact commandLock_elsewhere h _
  | externalLockCommand => exact commandLock_elsewhere h _
  | resetRequested => exact factoryReset_elsewhere h _
  | configSubmitted => exact applySubmission_elsewhere h
  | linkChanged => exact ⟨trivial, fun _ => h⟩
  | sessionChanged => exact ⟨trivial, fun _ => h⟩
  | unknown _ => exact h
  | _ => exact hsession

lemma handle_elsewhere (h : d.stance = a) (e : Event) :
    (d.handle e).Confined Elsewhere (·.2.stance = a) := by
  unfold handle
  split
  · exact h
  refine (react_elsewhere h e).bind fun d h => ?_
  split
  · exact h
  · exact (refresh_elsewhere _ h).bind fun _ h => h

lemma act_elsewhere (h : d.stance = a) {s : Step} (hs : ∀ now, s ≠ .tick now) :
    (d.act s).Confined Elsewhere (·.stance = a) := by
  cases s with
  | tick now => exact absurd rfl (hs now)
  | handle e => exact (handle_elsewhere h e).bind fun _ h => h
  | requestLock l now => exact ⟨rfl, fun _ => h⟩
  | submit s now =>
    refine ⟨trivial, fun taken => ?_⟩
    cases taken with
    | true => exact ⟨rfl, fun _ => h⟩
    | false => exact h
  | requestReset now => exact ⟨rfl, fun _ => h⟩

lemma sample_elsewhere {s : Strike} (h : s.contact.pin ≠ Pin.button) :
    (s.sample now).Confined Elsewhere (·.contact.pin = s.contact.pin) := by
  have hpoll : (s.contact.poll now).Confined Elsewhere (·.2.pin = s.contact.pin) := by
    rw [Contact.poll_eq]
    exact ⟨h, fun high => congrArg Prod.fst (s.contact.polled_wiring high now)⟩
  refine hpoll.bind fun r hr => ?_
  rcases r with ⟨_ | door, contact⟩
  · exact hr
  · exact (report_elsewhere now _ (by decide) _).bind fun _ _ => hr

lemma strikeStart_elsewhere {s : Strike} (h : s.contact.pin ≠ Pin.button) (activeHigh : Bool) :
    (s.start activeHigh now).Confined Elsewhere (·.contact.pin = s.contact.pin) :=
  ⟨trivial, fun _ => ⟨trivial, fun _ => ⟨trivial, fun _ => ⟨h, fun _ => rfl⟩⟩⟩⟩

lemma start_elsewhere (h : d.strike.contact.pin ≠ Pin.button) :
    (d.start now).Confined Elsewhere
      (·.stance = (d.button, now, d.strike.contact.pin)) := by
  refine (d.indicator.start_confined now).within elsewhere_of_indicator fun indicator _ => ?_
  refine ⟨trivial, fun id => ⟨trivial, fun _ => ?_⟩⟩
  refine Store.load_confined.within elsewhere_of_store fun stored _ => ?_
  refine (strikeStart_elsewhere now h _).bind fun strike hs => ?_
  refine (startRole_elsewhere now ?_).bind fun d h => refresh_elsewhere now h
  rw [stance, hs]

end Device

/-! ### The button and the looks at it -/

namespace Vigil

variable {hold : UInt32} {began last gap : Nat} {b : Button} {looks : List Look} {v v' : Vigil}

/-- What a request of a reset comes after. -/
structure Held (hold : UInt32) (began time : Nat) (looks : List Look) : Prop where
  /-- The button is seen pressed at the time of the request. -/
  pressed : looks.head? = some { time, pressed := true }
  /-- It was last seen released, or the device started, the time of a press ago at least. -/
  long : releasedAt began looks + hold.toNat ≤ time
  /-- At every look since then it was pressed. -/
  steady : ∀ x ∈ looks, time < x.time + hold.toNat → x.pressed = true

/-- A look after the button was last seen released saw it pressed. -/
lemma pressed_of_releasedAt_lt (hsorted : looks.Pairwise fun x y => y.time ≤ x.time) {x : Look}
    (hx : x ∈ looks) (hlt : releasedAt began looks < x.time) : x.pressed = true := by
  induction looks with
  | nil => exact absurd hx List.not_mem_nil
  | cons y older ih =>
    obtain ⟨hnewest, hsorted⟩ := List.pairwise_cons.1 hsorted
    cases hy : y.pressed with
    | true =>
      rcases List.mem_cons.1 hx with rfl | hx
      · exact hy
      · refine ih hsorted hx ?_
        simpa [releasedAt, hy] using hlt
    | false =>
      have hle : x.time ≤ y.time := by
        rcases List.mem_cons.1 hx with rfl | hx
        · exact Nat.le_refl _
        · exact hnewest x hx
      have hlt : y.time < x.time := by simpa [releasedAt, hy] using hlt
      omega

/-- The button does not take a press for longer than it was seen. -/
structure Seen (hold : UInt32) (began last : Nat) (b : Button) (v : Vigil) : Prop where
  setting : b.hold = hold
  past : last ≤ v.now
  elapsed : releasedAt began v.looks + b.elapsed.toNat ≤ last
  sorted : v.looks.Pairwise fun x y => y.time ≤ x.time
  seen : ∀ x ∈ v.looks, x.time ≤ v.now
  requests : ∀ r ∈ v.requests, Held hold began r.1 r.2

lemma Seen.after (h : Seen hold began last b v) (gap : Nat) :
    Seen hold began last b (v.after gap) where
  setting := h.setting
  past := Nat.le_add_right_of_le h.past
  elapsed := h.elapsed
  sorted := h.sorted
  seen x hx := Nat.le_add_right_of_le (h.seen x hx)
  requests := h.requests

/-- A look is taken in by a button whose sum covers no more than the press. -/
lemma Seen.look (h : Seen hold began last b v) (pressed : Bool) {b' : Button}
    (hsetting : b'.hold = hold)
    (helapsed : releasedAt began (v.look pressed).looks + b'.elapsed.toNat ≤ v.now) :
    Seen hold began v.now b' (v.look pressed) where
  setting := hsetting
  past := Nat.le_refl _
  elapsed := helapsed
  sorted := List.pairwise_cons.2 ⟨h.seen, h.sorted⟩
  seen := List.forall_mem_cons.2 ⟨Nat.le_refl _, h.seen⟩
  requests := h.requests

lemma Seen.asked (h : Seen hold began last b v) (hheld : Held hold began v.now v.looks) :
    Seen hold began last b v.request where
  setting := h.setting
  past := h.past
  elapsed := h.elapsed
  sorted := h.sorted
  seen := h.seen
  requests := List.forall_mem_cons.2 ⟨hheld, h.requests⟩

lemma Seen.held_elapsed (h : Seen hold began last b v) :
    releasedAt began v.looks + (b.held (.ofNat v.now - .ofNat last)).elapsed.toNat ≤ v.now := by
  have hgap := Clock.toNat_sub_ofNat_le h.past
  have hpast := h.past
  have helapsed := h.elapsed
  rw [Button.held, Button.toNat_addSaturating]
  omega

/-- Long enough by the sum is long enough by the looks. -/
lemma Seen.held (h : Seen hold began last b v)
    (hlong : ¬(b.held (.ofNat v.now - .ofNat last)).elapsed < b.hold) :
    Held hold began v.now (v.look true).looks := by
  have helapsed := h.held_elapsed
  have hlong : releasedAt began (v.look true).looks + hold.toNat ≤ v.now := by
    rw [UInt32.lt_iff_toNat_lt, h.setting] at hlong
    change releasedAt began v.looks + hold.toNat ≤ v.now
    omega
  refine ⟨rfl, hlong, fun x hx hlate => ?_⟩
  have hlater : releasedAt began (v.look true).looks < x.time := by omega
  exact pressed_of_releasedAt_lt (List.pairwise_cons.2 ⟨h.seen, h.sorted⟩) hx hlater

lemma Seen.tick (h : Seen hold began last b v) (pressed : Bool) :
    (b.tick pressed (.ofNat v.now - .ofNat last) (.ofNat v.now)).Ensures Vigil.surroundings
      (Seen hold began v.now) (v.look pressed) := by
  refine Button.tick_ensures (fun _ _ _ _ hsame => hsame) ?released ?fired ?short ?due
  case released =>
    rintro rfl
    exact h.look false h.setting (Nat.le_refl v.now)
  case fired =>
    rintro rfl -
    exact h.look true h.setting (h.elapsed.trans h.past)
  case short =>
    rintro rfl - -
    exact h.look true h.setting h.held_elapsed
  case due =>
    rintro rfl - hlong ok _ hpost
    obtain rfl := hpost.trans (if_pos rfl)
    refine Seen.asked ?_ (h.held hlong)
    exact h.look true h.setting h.held_elapsed

end Vigil

namespace Device

open Vigil

variable {hold : UInt32} {began last : Nat} {d d' : Device} {v v' : Vigil}

/-- Between operations: the button goes by the looks up to the last tick, and the strike looks at
another pin. -/
structure Kept (hold : UInt32) (began last : Nat) (d : Device) (v : Vigil) : Prop where
  seen : Seen hold began last d.button v
  ticked : d.lastTick = .ofNat last
  pin : d.strike.contact.pin ≠ Pin.button

lemma Kept.of_stance (h : Kept hold began last d v) (hd : d'.stance = d.stance) :
    Kept hold began last d' v := by
  obtain ⟨hbutton, hlast, hpin⟩ := stance_eq.1 hd
  exact ⟨hbutton ▸ h.seen, hlast.trans h.ticked, hpin ▸ h.pin⟩

lemma same_of_elsewhere {c : Hardware.Call} {r : Hardware.Answer c} (hc : Elsewhere c)
    (h : Vigil.surroundings.may c v r v') : v' = v := by
  cases c with
  | pinRead pin => exact h.trans (if_neg hc)
  | post e => exact h.trans (if_neg (by rw [show e.pressed = false from hc]; decide))
  | _ => exact h

lemma ensures_elsewhere {α : Type} {p : Program Hardware α} {post : α → Prop}
    (hp : p.Confined Elsewhere post) (v : Vigil) :
    p.Ensures Vigil.surroundings (fun a v' => post a ∧ v' = v) v := by
  refine hp.ensures (K := (· = v)) ?_ rfl
  rintro c v₁ r v₂ hc hr rfl
  exact same_of_elsewhere hc hr

lemma Kept.afterSample (h : Kept hold began last d v) {strike : Strike}
    (hs : strike.contact.pin ≠ Pin.button) :
    (d.afterSample (.ofNat v.now) strike).Ensures Vigil.surroundings (Kept hold began v.now) v := by
  rintro high _ hlook
  obtain rfl := hlook.trans (if_pos rfl)
  rw [h.ticked]
  refine (h.seen.tick (!high)).bind fun button v' hseen => ?_
  have hrest : (d.link.update d.timing (.ofNat v.now) >>= fun link =>
      d.session.update d.timing (link.state == .connected) (.ofNat v.now) >>= fun session =>
      d.indicator.update d.timing (.ofNat v.now) >>= fun indicator =>
      pure { d with
        strike, button, link, session, indicator
        lastTick := .ofNat v.now
        now := .ofNat v.now }).Confined Elsewhere
      (·.stance = (button, .ofNat v.now, strike.contact.pin)) := by
    refine (d.link.update_confined _ _).within elsewhere_of_link fun link _ => ?_
    refine (Session.update_confined _ _ rfl _).within elsewhere_of_session fun session _ => ?_
    exact (d.indicator.update_confined _ _).within elsewhere_of_indicator fun _ _ => rfl
  refine (ensures_elsewhere hrest v').mono ?_
  rintro d' _ ⟨hd, rfl⟩
  obtain ⟨hbutton, hlast, hpin⟩ := stance_eq.1 hd
  exact ⟨hbutton ▸ hseen, hlast, hpin ▸ hs⟩

lemma Kept.tick (h : Kept hold began last d v) :
    (d.tick (.ofNat v.now)).Ensures Vigil.surroundings
      (fun d' v' => ∃ last', Kept hold began last' d' v') v := by
  cases hr : d.rebootPending with
  | true =>
    rw [tick_pending _ hr]
    exact ⟨last, h⟩
  | false =>
    rw [tick_eq _ hr]
    refine (ensures_elsewhere (sample_elsewhere _ h.pin) v).bind ?_
    rintro strike _ ⟨hs, rfl⟩
    exact (h.afterSample (hs ▸ h.pin)).mono fun _ _ h' => ⟨_, h'⟩

lemma Kept.act (h : Kept hold began last d v) (s : Step) :
    (d.act (s.at (.ofNat v.now))).Ensures Vigil.surroundings
      (fun d' v' => ∃ last', Kept hold began last' d' v') v := by
  by_cases hs : ∃ now, s = .tick now
  · obtain ⟨now, rfl⟩ := hs
    exact h.tick
  · have hother : ∀ now, s.at (.ofNat v.now) ≠ .tick now := by
      rintro now hnow
      cases s with
      | tick now => exact hs ⟨now, rfl⟩
      | _ => cases hnow
    refine (ensures_elsewhere (act_elsewhere rfl hother) v).mono ?_
    rintro d' _ ⟨hd, rfl⟩
    exact ⟨last, h.of_stance hd⟩

lemma Kept.throughout (h : Kept hold began last d v) (steps : List (Nat × Step)) :
    d.Throughout (fun v' => ∀ r ∈ v'.requests, Held hold began r.1 r.2) steps v := by
  induction steps generalizing last d v with
  | nil => exact h.seen.requests
  | cons s steps ih =>
    have hlater : Kept hold began last d (v.after s.1) := ⟨h.seen.after s.1, h.ticked, h.pin⟩
    exact (hlater.act s.2).mono fun d' v' ⟨last', h'⟩ => ih h'

/-- **No early reset**: whenever the ticks come and whatever happens in between, a reset is
requested in the name of the button only at a tick that sees it pressed, when it was last seen
released, or the device started, at least the time of a press ago. So every tick in that time saw it
pressed. -/
theorem reset_needs_press (t : Timing) (began : Nat) (steps : List (Nat × Step)) :
    ((Device.new t).start (.ofNat began)).Ensures Vigil.surroundings (fun d v =>
      d.Throughout (fun v' => ∀ r ∈ v'.requests, Held t.resetHold began r.1 r.2) steps v)
      { now := began } := by
  have hpin : (Device.new t).strike.contact.pin ≠ Pin.button :=
    (by decide : Pin.contact ≠ Pin.button)
  have hstart := start_elsewhere (.ofNat began) hpin
  refine (ensures_elsewhere hstart _).mono ?_
  rintro d _ ⟨hd, rfl⟩
  obtain ⟨hbutton, hlast, hcontact⟩ := stance_eq.1 hd
  have hseen : Seen t.resetHold began began d.button { now := began } := by
    rw [hbutton]
    exact ⟨rfl, Nat.le_refl _, Nat.le_refl _, .nil, nofun, nofun⟩
  exact Kept.throughout ⟨hseen, hlast, hcontact ▸ hpin⟩ steps

end Device

/-! ### Before the first look -/

namespace Vigil

/-- A press that was seen for long enough: the looks up to a request see the button pressed, back to
one that is at least the time of a press ago. -/
def Spanned (hold : UInt32) (time : Nat) (looks : List Look) : Prop :=
  ∃ x ∈ looks.takeWhile (·.pressed), x.time + hold.toNat ≤ time

instance (hold : UInt32) (time : Nat) (looks : List Look) : Decidable (Spanned hold time looks) :=
  inferInstanceAs (Decidable (∃ x ∈ looks.takeWhile (·.pressed), x.time + hold.toNat ≤ time))

/-- Calm hardware with the button held down. -/
def heldDown : Environment Hardware Vigil where
  respond
    | .pinRead pin, v => (false, if pin = Pin.button then v.look true else v)
    | .post e, v => (true, if e.pressed then v.request else v)
    | c, v => ((Traffic.calm.respond c { capacity := 0 }).1, v)

lemma heldDown_follows : heldDown.Follows surroundings id := by
  intro c v
  cases c <;> rfl

end Vigil

/-- The time before the first look counts as pressed too: with the first tick after the time of a
press, one look is enough for a reset. -/
theorem Device.reset_without_span :
    ¬∀ (t : Timing) (began : Nat) (steps : List (Nat × Device.Step)),
    ((Device.new t).start (.ofNat began)).Ensures Vigil.surroundings (fun d v =>
      d.Throughout (fun v' => ∀ r ∈ v'.requests, Vigil.Spanned t.resetHold r.1 r.2) steps v)
      { now := began } := by
  intro h
  have hstart := (h {} 0 [(5000, .tick 0)]).run (f := id) Vigil.heldDown_follows
  have htick := Ensures.run (f := id) Vigil.heldDown_follows hstart
  have hrequest := htick (5000, [{ time := 5000, pressed := true }]) (by decide +kernel)
  exact absurd hrequest (by decide)

end DoorControl
