import DoorControl.Proofs.Alike
import DoorControl.Proofs.Parts

/-!
The parts of the device under a clock that is `k` ahead. Everything they do depends on differences of
times: all their calls are the same, but that the events they post bear the later time. A time that
nobody set yet stays what it is, and is not read before it is set.
-/

namespace DoorControl

open Bytes Program

/-! ### Calls under the later clock -/

/-- The event with another time. -/
def Event.stamped (e : Event) (time : Clock) : Event := { e with time }

@[simp] lemma Event.stamped_kind (e : Event) (time : Clock) : (e.stamped time).kind = e.kind := rfl

/-- The event as of the later clock. -/
def Event.later (k : Clock) (e : Event) : Event := e.stamped (e.time + k)

/-- The call as of the later clock. -/
def Hardware.Call.later (k : Clock) : Hardware.Call → Hardware.Call
  | .post e => .post (e.later k)
  | c => c

/-- The exchange as of the later clock. -/
def Exchange.later (k : Clock) : Exchange Hardware → Exchange Hardware
  | ⟨.post e, ok⟩ => ⟨.post (e.later k), ok⟩
  | x => x

namespace Hardware

/-- The same calls under the two clocks, with the same answers. -/
def later (k : Clock) : Pairing Hardware where
  calls c c' := c' = c.later k
  answers _ _ r r' := r ≍ r'

variable {α α' β : Type} {k : Clock}

lemma later_exchanges {x x' : Exchange Hardware} (h : (later k).exchanges x x') :
    x' = x.later k := by
  obtain ⟨c, r⟩ := x
  obtain ⟨c', r'⟩ := x'
  obtain ⟨rfl, hr⟩ := h
  cases c <;> cases hr <;> rfl

lemma later_records {h h' : List (Exchange Hardware)}
    (hh : List.Forall₂ (later k).exchanges h h') : h' = h.map (Exchange.later k) := by
  induction hh with
  | nil => rfl
  | cons hx _ ih => rw [List.map_cons, later_exchanges hx, ih]

/-- The calls that post nothing. -/
def Timeless : Hardware.Call → Prop
  | .post _ => False
  | _ => True

lemma timeless_later (c : Hardware.Call) (hc : Timeless c) :
    (later k).calls c c ∧ ∀ r r', (later k).answers c c r r' → r' = r := by
  cases c with
  | post e => exact hc.elim
  | _ => exact ⟨rfl, fun r r' hr => (eq_of_heq hr).symm⟩

/-- A part that posts nothing, and what comes after it under either clock. -/
lemma timeless_bind {p : Program Hardware α} {M : α → Prop} {f : α → Program Hardware α'}
    {f' : α → Program Hardware β} {post : α' → β → Prop} (h : p.Confined Timeless M)
    (hf : ∀ a, M a → (f a).Alike (later k) post (f' a)) :
    (p >>= f).Alike (later k) post (p >>= f') :=
  h.alike_bind timeless_later hf

lemma timeless_call {c : Hardware.Call} (hc : Timeless c) {f : Hardware.Answer c → Program Hardware α}
    {f' : Hardware.Answer c → Program Hardware β} {post : α → β → Prop}
    (hf : ∀ r, (f r).Alike (later k) post (f' r)) :
    (Program.call (I := Hardware) c f).Alike (later k) post (Program.call (I := Hardware) c f') :=
  timeless_bind (p := ask c) (M := fun _ => True) ⟨hc, fun _ => trivial⟩ fun r _ => hf r

/-- An event is posted with the time of either clock. -/
lemma post_bind (e : Event) {f : Bool → Program Hardware α} {f' : Bool → Program Hardware β}
    {post : α → β → Prop} (hf : ∀ ok, (f ok).Alike (later k) post (f' ok)) :
    (Hardware.post e >>= f).Alike (later k) post (Hardware.post (e.later k) >>= f') := by
  refine ⟨rfl, ?_⟩
  rintro ok _ ⟨⟩
  exact hf ok

lemma postOrWarn_alike (tag : Bytes) (e : Event) :
    (postOrWarn tag e).Alike (later k) (fun _ _ => True) (postOrWarn tag (e.later k)) := by
  refine post_bind e fun ok => ?_
  cases ok with
  | true => trivial
  | false => exact timeless_call (c := .log _) trivial fun _ => trivial

end Hardware

open Hardware

/-! ### Differences of times -/

namespace Clock

variable (k now t : Clock)

lemma later_sub : now + k - (t + k) = now - t := by grind

lemma later_add (d : UInt32) : now + k + d = now + d + k := by grind

lemma later_reached : reached (now + k) (t + k) = reached now t := by
  rw [reached, reached, later_sub]

end Clock

/-! ### The parts with a clock of their own -/

variable (k : Clock)

namespace Contact

def later (c : Contact) : Contact := { c with since := c.since + k }

lemma start_later (c : Contact) (now : Clock) :
    (c.start now).Alike (Hardware.later k) (fun r r' => r' = r.later k) (c.start (now + k)) :=
  timeless_call (c := .pinInput _) trivial fun _ => timeless_call (c := .pinRead _) trivial fun _ => rfl

lemma noted_later (c : Contact) (raw : Bool) (now : Clock) :
    (c.later k).noted raw (now + k) = (c.noted raw now).later k := by
  unfold noted
  split <;> simp_all [later]

lemma due_later (c : Contact) (now : Clock) : (c.later k).due (now + k) = c.due now := by
  simp only [due, later, Clock.later_sub]
  rfl

lemma poll_later (c : Contact) (now : Clock) :
    (c.poll now).Alike (Hardware.later k) (fun r r' => r' = (r.1, r.2.later k))
      ((c.later k).poll (now + k)) := by
  refine timeless_bind (p := c.readClosed) (M := fun _ => True) ⟨trivial, fun _ => trivial⟩
    fun raw _ => ?_
  dsimp only
  rw [noted_later, due_later]
  cases (c.noted raw now).due now <;> rfl

end Contact

namespace Strike

def later (s : Strike) : Strike := { s with contact := s.contact.later k }

lemma start_later (s : Strike) (activeHigh : Bool) (now : Clock) :
    (s.start activeHigh now).Alike (Hardware.later k) (fun r r' => r' = r.later k)
      (s.start activeHigh (now + k)) := by
  refine timeless_call (c := .pinOutput _) trivial fun _ => ?_
  refine timeless_call (c := .pinWrite _ _) trivial fun _ => ?_
  refine (s.contact.start_later k now).bind ?_
  rintro contact _ rfl
  rfl

lemma set_later (s : Strike) (l : LockState) (now : Clock) :
    (s.set l now).Alike (Hardware.later k) (fun r r' => r' = r.later k)
      ((s.later k).set l (now + k)) := by
  refine timeless_call (c := .pinWrite _ _) trivial fun _ => ?_
  exact (postOrWarn_alike _ { kind := .lockChanged, time := now, arg := l.code }).bind
    fun _ _ _ => rfl

lemma sample_later (s : Strike) (now : Clock) :
    (s.sample now).Alike (Hardware.later k) (fun r r' => r' = r.later k)
      ((s.later k).sample (now + k)) := by
  refine (s.contact.poll_later k now).bind ?_
  rintro ⟨report, contact⟩ _ rfl
  cases report with
  | none => rfl
  | some d =>
    exact (postOrWarn_alike _ { kind := .doorChanged, time := now, arg := d.code }).bind
      fun _ _ _ => rfl

end Strike

namespace Button

lemma tick_later (b : Button) (pressed : Bool) (dt : UInt32) (now : Clock) :
    (b.tick pressed dt now).Alike (Hardware.later k) (fun r r' => r' = r)
      (b.tick pressed dt (now + k)) := by
  unfold tick
  split
  · rfl
  split
  · rfl
  split
  · rfl
  refine post_bind { kind := .resetRequested, time := now, arg := Event.fromButton } fun ok => ?_
  cases ok with
  | true => exact timeless_call (c := .log _) trivial fun _ => rfl
  | false => exact timeless_call (c := .log _) trivial fun _ => rfl

end Button

namespace Indicator

def later (s : Indicator) : Indicator := { s with phase := s.phase + k }

lemma display_later (s : Indicator) (c : LightColor) :
    (s.display c).Alike (Hardware.later k) (fun r r' => r' = r.later k)
      ((s.later k).display c) := by
  unfold display
  change Alike _ _ _ (if s.shown = some c then _ else _)
  split
  · rfl
  · refine timeless_bind (M := fun _ => True) ?_ fun _ _ => rfl
    simp [write, Timeless]

lemma start_later (s : Indicator) (now : Clock) :
    (s.start now).Alike (Hardware.later k) (fun r r' => r' = r.later k) (s.start (now + k)) :=
  display_later k { s with pattern := ⟨.red, false⟩, lit := true, phase := now, shown := none } .red

lemma apply_later (s : Indicator) (p : LightPattern) (now : Clock) :
    (s.apply p now).Alike (Hardware.later k) (fun r r' => r' = (r.1, r.2.later k))
      ((s.later k).apply p (now + k)) := by
  unfold apply
  change Alike _ _ _ (if p = s.pattern then _ else _)
  split
  · rfl
  · refine (display_later k { s with pattern := p, lit := true, phase := now } p.color).bind ?_
    rintro s' _ rfl
    rfl

lemma update_later (t : Timing) (s : Indicator) (now : Clock) :
    (s.update t now).Alike (Hardware.later k) (fun r r' => r' = r.later k)
      ((s.later k).update t (now + k)) := by
  unfold update
  have hdue : now + k - (s.later k).phase < (s.later k).span t ↔ now - s.phase < s.span t := by
    rw [show (s.later k).phase = s.phase + k from rfl, Clock.later_sub]
    rfl
  rw [show (s.later k).pattern = s.pattern from rfl, if_congr hdue rfl rfl]
  split
  · rfl
  split
  · rfl
  · exact display_later k { s with lit := !s.lit, phase := now } _

end Indicator

namespace Link

/-- The link with other times. -/
def retimed (s : Link) (startedAt retryAt : Clock) : Link := { s with startedAt, retryAt }

/-- The link under the later clock. The start of an attempt counts while it lasts, the time of the
next one while there is none. -/
def Later (s s' : Link) : Prop :=
  ∃ startedAt retryAt, s' = s.retimed startedAt retryAt ∧
    (s.state = .connecting → startedAt = s.startedAt + k) ∧
    (s.state = .disconnected → retryAt = s.retryAt + k)

@[simp] lemma retimed_state (s : Link) (a b : Clock) : (s.retimed a b).state = s.state := rfl

variable (t : Timing) {s s' : Link} (startedAt retryAt now : Clock)

lemma Later.state_eq {k : Clock} (h : s.Later k s') : s'.state = s.state := by
  obtain ⟨_, _, rfl, _⟩ := h
  rfl

lemma transition_later (s : Link) (next : LinkState) :
    (s.transition next now).Alike (Hardware.later k)
      (fun r r' => r = { s with state := next } ∧ r' = r.retimed startedAt retryAt)
      ((s.retimed startedAt retryAt).transition next (now + k)) := by
  refine alike_ite .rfl (fun hn => ?_) fun _ => ?_
  · subst hn
    exact ⟨rfl, rfl⟩
  · exact (postOrWarn_alike _ { kind := .linkChanged, time := now, arg := next.code }).bind
      fun _ _ _ => ⟨rfl, rfl⟩

/-- Without a link the start of the last attempt does not count. -/
lemma fail_later (why : Failure) :
    (s.fail t now why).Alike (Hardware.later k) (Later k)
      ((s.retimed startedAt retryAt).fail t (now + k) why) := by
  refine timeless_call (c := .stopRadio) trivial fun _ => ?_
  refine timeless_call (c := .log _) trivial fun _ => ?_
  refine (transition_later k startedAt _ now { s with failures := _, retryAt := _ }
    .disconnected).mono ?_
  rintro _ _ ⟨rfl, rfl⟩
  exact ⟨_, _, rfl, nofun, fun _ => Clock.later_add k now _⟩

lemma connect_later :
    (s.connect t now).Alike (Hardware.later k) (Later k)
      ((s.retimed startedAt retryAt).connect t (now + k)) := by
  refine (transition_later k (now + k) retryAt now { s with startedAt := now } .connecting).bind ?_
  rintro _ _ ⟨rfl, rfl⟩
  refine timeless_call (c := .startStation _ _) trivial fun ok => ?_
  cases ok with
  | true => exact timeless_call (c := .log _) trivial fun _ => ⟨_, _, rfl, fun _ => rfl, nofun⟩
  | false => exact fail_later k t _ _ now .refused

lemma enterSetup_later (hs : s.state = .uninitialized) :
    (s.enterSetup now).Alike (Hardware.later k) (fun r r' => r'.1 = r.1 ∧ r.2.Later k r'.2)
      (s.enterSetup (now + k)) := by
  have hstay : s.Later k s := ⟨s.startedAt, s.retryAt, rfl, by simp [hs], by simp [hs]⟩
  unfold enterSetup
  rw [if_neg (by simp [hs]), if_neg (by simp [hs])]
  refine timeless_call (c := .startAccessPoint _ _) trivial fun ok => ?_
  cases ok with
  | true =>
    refine (transition_later k s.startedAt s.retryAt now s .setupMode).bind ?_
    rintro _ _ ⟨rfl, rfl⟩
    exact ⟨rfl, _, _, rfl, nofun, nofun⟩
  | false => exact timeless_call (c := .log _) trivial fun _ => ⟨rfl, hstay⟩

lemma start_later (hs : s.state = .uninitialized) (c : Config) :
    (s.start t c now).Alike (Hardware.later k) (fun r r' => r'.1 = r.1 ∧ r.2.Later k r'.2)
      (s.start t c (now + k)) := by
  unfold start
  rw [if_neg (by simp [hs]), if_neg (by simp [hs])]
  exact (connect_later k t s.startedAt s.retryAt now).bind fun _ _ h => ⟨rfl, h⟩

lemma follow_later (hs : s.state = .connecting) (hstarted : startedAt = s.startedAt + k) :
    (s.follow t now).Alike (Hardware.later k) (Later k)
      ((s.retimed startedAt retryAt).follow t (now + k)) := by
  subst hstarted
  refine timeless_call (c := .radioStatus) trivial fun r => ?_
  cases r with
  | up =>
    refine timeless_call (c := .log _) trivial fun _ => ?_
    refine (transition_later k _ retryAt now { s with failures := 0 } .connected).mono ?_
    rintro _ _ ⟨rfl, rfl⟩
    exact ⟨_, _, rfl, nofun, nofun⟩
  | failed => exact fail_later k t _ _ now .association
  | down =>
    refine alike_ite ?_ (fun _ => fail_later k t _ _ now .timeout) fun _ => ?_
    · change _ ≤ now + k - (s.startedAt + k) ↔ _
      rw [Clock.later_sub]
    · exact ⟨_, _, rfl, fun _ => rfl, by simp [hs]⟩

lemma watch_later (hs : s.state = .connected) :
    (s.watch t now).Alike (Hardware.later k) (Later k)
      ((s.retimed startedAt retryAt).watch t (now + k)) := by
  refine timeless_call (c := .radioStatus) trivial fun r => ?_
  refine alike_ite .rfl (fun _ => ⟨_, _, rfl, by simp [hs], by simp [hs]⟩) fun _ => ?_
  refine timeless_call (c := .stopRadio) trivial fun _ => ?_
  refine timeless_call (c := .log _) trivial fun _ => ?_
  refine (transition_later k startedAt _ now { s with failures := 1, retryAt := _ }
    .disconnected).mono ?_
  rintro _ _ ⟨rfl, rfl⟩
  exact ⟨_, _, rfl, nofun, fun _ => Clock.later_add k now _⟩

lemma update_later (h : s.Later k s') :
    (s.update t now).Alike (Hardware.later k) (Later k) (s'.update t (now + k)) := by
  have hstay := h
  obtain ⟨startedAt, retryAt, rfl, hstarted, hretry⟩ := h
  refine alike_ite .rfl (fun _ => hstay) fun _ => ?_
  simp only [retimed_state]
  cases hs : s.state with
  | connecting => exact follow_later k t startedAt retryAt now hs (hstarted hs)
  | connected => exact watch_later k t startedAt retryAt now hs
  | disconnected =>
    obtain rfl := hretry hs
    refine alike_ite ?_ (fun _ => connect_later k t _ _ now) fun _ => hstay
    change Clock.reached (now + k) (s.retryAt + k) = true ↔ _
    rw [Clock.later_reached]
  | uninitialized => exact hstay
  | setupMode => exact hstay

lemma shutdown_later (h : s.Later k s') :
    s.shutdown.Alike (Hardware.later k) (Later k) s'.shutdown := by
  have hstay := h
  obtain ⟨startedAt, retryAt, rfl, hstarted, hretry⟩ := h
  refine alike_ite .rfl (fun _ => hstay) fun _ => alike_ite .rfl (fun _ => ?_) fun _ => ?_
  · exact timeless_call (c := .stopRadio) trivial fun _ => ⟨_, _, rfl, hstarted, hretry⟩
  · exact ⟨_, _, rfl, hstarted, hretry⟩

end Link

namespace Session

/-- The session with other times. -/
def retimed (s : Session) (startedAt retryAt : Clock) : Session := { s with startedAt, retryAt }

/-- The session under the later clock. The start of an attempt counts until the commands are
subscribed to, the time of the next one after a failure. -/
def Later (s s' : Session) : Prop :=
  ∃ startedAt retryAt, s' = s.retimed startedAt retryAt ∧
    (s.state = .connecting ∨ s.state = .connected → startedAt = s.startedAt + k) ∧
    (s.state = .backoff → retryAt = s.retryAt + k)

@[simp] lemma retimed_state (s : Session) (a b : Clock) : (s.retimed a b).state = s.state := rfl

variable (t : Timing) {s s' : Session} (startedAt retryAt now : Clock)

lemma later_self {k : Clock} (hs : s.state = .idle) : s.Later k s :=
  ⟨s.startedAt, s.retryAt, rfl, by simp [hs], by simp [hs]⟩

lemma configure_timeless (s : Session) (c : Config) :
    (s.configure c).Confined Timeless (·.2.state = s.state) := by
  simp only [configure]
  split
  · exact ⟨trivial, fun _ => rfl⟩
  cases Document.discovery? c (s.topics.build c.deviceId.view).2 with
  | none => exact ⟨trivial, fun _ => rfl⟩
  | some d =>
    dsimp only
    split
    · exact ⟨trivial, fun _ => rfl⟩
    · rfl

lemma teardown_timeless (s : Session) : s.teardown.Confined Timeless fun _ => True := by
  simp [teardown, Timeless]

lemma announce_timeless (s : Session) : s.announce.Confined Timeless fun _ => True := by
  simp [announce, Timeless]

lemma transition_later (s : Session) (next : SessionState) :
    (s.transition next now).Alike (Hardware.later k)
      (fun r r' => r = { s with state := next } ∧ r' = r.retimed startedAt retryAt)
      ((s.retimed startedAt retryAt).transition next (now + k)) := by
  refine alike_ite .rfl (fun hn => ?_) fun _ => ?_
  · subst hn
    exact ⟨rfl, rfl⟩
  · exact (postOrWarn_alike _ { kind := .sessionChanged, time := now, arg := next.code }).bind
      fun _ _ _ => ⟨rfl, rfl⟩

lemma fail_later (why : Failure) :
    (s.fail t now why).Alike (Hardware.later k) (Later k)
      ((s.retimed startedAt retryAt).fail t (now + k) why) := by
  refine timeless_bind s.teardown_timeless fun _ _ => ?_
  refine timeless_call (c := .log _) trivial fun _ => ?_
  refine (transition_later k startedAt _ now { s with failures := _, retryAt := _ } .backoff).mono ?_
  rintro _ _ ⟨rfl, rfl⟩
  exact ⟨_, _, rfl, nofun, fun _ => Clock.later_add k now _⟩

lemma lose_later :
    (s.lose t now).Alike (Hardware.later k) (Later k)
      ((s.retimed startedAt retryAt).lose t (now + k)) := by
  refine timeless_call (c := .log _) trivial fun _ => ?_
  refine (transition_later k startedAt _ now { s with retryAt := _, failures := 1 } .backoff).mono ?_
  rintro _ _ ⟨rfl, rfl⟩
  exact ⟨_, _, rfl, nofun, fun _ => Clock.later_add k now _⟩

lemma connect_later :
    (s.connect t now).Alike (Hardware.later k) (Later k)
      ((s.retimed startedAt retryAt).connect t (now + k)) := by
  refine (transition_later k (now + k) retryAt now
    { s with generation := _, connection := _, startedAt := now } .connecting).bind ?_
  rintro _ _ ⟨rfl, rfl⟩
  refine timeless_call (c := .request _) trivial fun ok => ?_
  cases ok with
  | true => exact timeless_call (c := .log _) trivial fun _ => ⟨_, _, rfl, fun _ => rfl, nofun⟩
  | false => exact fail_later k t _ _ now .refused

lemma enterConnected_later (hstarted : startedAt = s.startedAt + k) :
    (s.enterConnected t now).Alike (Hardware.later k) (Later k)
      ((s.retimed startedAt retryAt).enterConnected t (now + k)) := by
  subst hstarted
  refine (transition_later k _ retryAt now s .connected).bind ?_
  rintro _ _ ⟨rfl, rfl⟩
  refine timeless_bind (announce_timeless _) fun ok _ => ?_
  cases ok with
  | true => exact ⟨_, _, rfl, fun _ => rfl, nofun⟩
  | false => exact fail_later k t _ _ now .announce

lemma publishPending_later (h : s.Later k s') :
    s.publishPending.Alike (Hardware.later k) (Later k) s'.publishPending := by
  have hstay := h
  obtain ⟨startedAt, retryAt, rfl, hstarted, hretry⟩ := h
  refine alike_ite .rfl (fun _ => hstay) fun _ => ?_
  refine timeless_call (c := .request _) trivial fun ok => ?_
  cases ok with
  | true => exact ⟨_, _, rfl, hstarted, hretry⟩
  | false => exact hstay

lemma enterSubscribed_later :
    (s.enterSubscribed now).Alike (Hardware.later k) (Later k)
      ((s.retimed startedAt retryAt).enterSubscribed (now + k)) := by
  refine timeless_call (c := .log _) trivial fun _ => ?_
  refine (transition_later k startedAt retryAt now { s with failures := 0 } .subscribed).bind ?_
  rintro _ _ ⟨rfl, rfl⟩
  exact publishPending_later k ⟨_, _, rfl, nofun, nofun⟩

lemma update_later (h : s.Later k s') (linkUp : Bool) :
    (s.update t linkUp now).Alike (Hardware.later k) (Later k) (s'.update t linkUp (now + k)) := by
  have hstay := h
  obtain ⟨startedAt, retryAt, rfl, hstarted, hretry⟩ := h
  have hdue (hs : s.state = .connecting ∨ s.state = .connected) :
      (t.mqttConnectTimeout ≤ now + k - startedAt) = (t.mqttConnectTimeout ≤ now - s.startedAt) := by
    rw [hstarted hs, Clock.later_sub]
  refine alike_ite .rfl (fun _ => hstay) fun _ => alike_ite .rfl (fun _ => ?_) fun _ => ?_
  · refine alike_ite .rfl (fun _ => hstay) fun _ => ?_
    refine timeless_bind s.teardown_timeless fun _ _ => ?_
    refine (transition_later k startedAt retryAt now s .idle).mono ?_
    rintro _ _ ⟨rfl, rfl⟩
    exact ⟨_, _, rfl, nofun, nofun⟩
  simp only [retimed_state]
  cases hs : s.state with
  | idle => exact connect_later k t _ _ now
  | backoff =>
    obtain rfl := hretry hs
    refine alike_ite ?_ (fun _ => connect_later k t _ _ now) fun _ => hstay
    change Clock.reached (now + k) (s.retryAt + k) = true ↔ _
    rw [Clock.later_reached]
  | connecting =>
    exact alike_ite (hdue (.inl hs)).to_iff (fun _ => fail_later k t _ _ now .timeout) fun _ => hstay
  | connected =>
    exact alike_ite (hdue (.inr hs)).to_iff (fun _ => fail_later k t _ _ now .timeout) fun _ => hstay
  | subscribed => exact publishPending_later k hstay

/-- A command is passed on with the time of either clock. -/
lemma receive_later (h : s.Later k s') (payload : Bytes) :
    (s.receive payload now).Alike (Hardware.later k) (Later k) (s'.receive payload (now + k)) := by
  unfold receive
  cases LockState.ofCommand? payload with
  | none => exact timeless_call (c := .log _) trivial fun _ => h
  | some l =>
    refine post_bind { kind := .lockCommand, time := now, arg := l.code } fun ok => ?_
    cases ok with
    | true => exact h
    | false => exact timeless_call (c := .log _) trivial fun _ => h

lemma handle_later (h : s.Later k s') (e : Event) (time : Clock) :
    (s.handle t e now).Alike (Hardware.later k) (Later k)
      (s'.handle t (e.stamped time) (now + k)) := by
  have hstay := h
  obtain ⟨startedAt, retryAt, rfl, hstarted, hretry⟩ := h
  refine alike_ite .rfl (fun _ => hstay) fun _ => alike_ite .rfl (fun _ => hstay) fun _ => ?_
  rw [Event.stamped_kind]
  cases e.kind with
  | transportUp =>
    refine alike_ite .rfl (fun hs => ?_) fun _ => hstay
    exact enterConnected_later k t _ _ now (hstarted (.inl hs))
  | transportFailed => exact alike_ite .rfl (fun _ => fail_later k t _ _ now _) fun _ => hstay
  | subscribed => exact alike_ite .rfl (fun _ => enterSubscribed_later k _ _ now) fun _ => hstay
  | publishFailed => exact alike_ite .rfl (fun _ => fail_later k t _ _ now _) fun _ => hstay
  | transportLost => exact alike_ite .rfl (fun _ => lose_later k t _ _ now) fun _ => hstay
  | message => exact alike_ite .rfl (fun _ => receive_later k now hstay _) fun _ => hstay
  | _ => exact hstay

lemma publish_later (h : s.Later k s') (l : LockState) (d : DoorState) :
    (s.publish l d).Alike (Hardware.later k) (Later k) (s'.publish l d) := by
  obtain ⟨startedAt, retryAt, rfl, hstarted, hretry⟩ := h
  have hstay : Later k { s with lock := l, door := d, dirty := true }
      ({ s with lock := l, door := d, dirty := true }.retimed startedAt retryAt) :=
    ⟨_, _, rfl, hstarted, hretry⟩
  exact alike_ite .rfl (fun _ => publishPending_later k hstay) fun _ => hstay

lemma shutdown_later (h : s.Later k s') :
    (s.shutdown t).Alike (Hardware.later k) (Later k) (s'.shutdown t) := by
  have hstay := h
  obtain ⟨startedAt, retryAt, rfl, hstarted, hretry⟩ := h
  have hstopped : Later k { s with stopped := true }
      ({ s with stopped := true }.retimed startedAt retryAt) := ⟨_, _, rfl, hstarted, hretry⟩
  refine alike_ite .rfl (fun _ => hstay) fun _ => timeless_bind s.teardown_timeless fun _ _ => ?_
  refine alike_ite .rfl (fun _ => ?_) fun _ => hstopped
  refine timeless_call (c := .flush _) trivial fun ok => ?_
  cases ok with
  | true => exact hstopped
  | false => exact timeless_call (c := .log _) trivial fun _ => hstopped

end Session

end DoorControl
