import DoorControl.Proofs.Schedule
import DoorControl.Proofs.Session.Farewell

/-!
The session repeats a failed attempt on schedule. When the link is gone it falls idle, and attempts
at once when the link is back.
-/

namespace DoorControl

open Program

/-- What a session state says of the attempts. -/
def SessionState.sign? : SessionState → Option Sign
  | .backoff => some .failed
  | .subscribed => some .succeeded
  | _ => none

namespace Session

/-- An attempt is a connection that is asked for; its failure and its success are reported. -/
def sign? : Hardware.Call → Option Sign
  | .request (.connect _) => some .asked
  | .post e =>
    if e.kind = .sessionChanged then (SessionState.ofCode? e.arg).bind SessionState.sign? else none
  | _ => none

namespace Move

def reading? : Move → Option Clock
  | .operate (.update _ now) | .operate (.handle _ now) => some now
  | _ => none

/-- The session can be set up with a configuration that is given to it. -/
def Accepted : Move → Prop
  | .configure c => ∀ s : Session, (s.configure c).Gives (·.1 = true)
  | .operate _ => True

end Move

/-- The session as something that attempts. It is told when its connection is lost. -/
def retrier (t : Timing) : Retrier Session Move where
  perform s m := m.perform t s
  sign := sign?
  reading? := Move.reading?
  updates
    | .operate (.update _ _) => true
    | _ => false
  starts _ := false
  loses
    | .operate (.handle e _) => e.kind = .transportLost
    | _ => false
  proper := Move.Accepted

/-- The time of the next attempt. -/
def due (t : Timing) (o : Tally) : Nat := o.due t.mqttBackoffBase t.mqttBackoffMax

/-- The operations that attempt: an update over a link, from idle or once the time of the retry is
reached, unless the session was not set up or was shut down. -/
def Tries (s : Session) (due time : Nat) : Move → Prop
  | .operate (.update linkUp _) => s.configured = true ∧ s.stopped = false ∧ linkUp = true ∧
      (s.state = .idle ∨ s.state = .backoff ∧ due ≤ time)
  | _ => False

/-- A session that retries on schedule. -/
structure Punctual (t : Timing) (s : Session) (o : Tally) : Prop where
  waits : s.state = .backoff → o.Waits
  /-- Only a link that is gone takes a session out of its wait. -/
  awaits : o.Waits → s.state = .backoff ∨ s.state = .idle
  schedule : o.Waits → s.retryAt = .ofNat (due t o)
  attempt : ∀ time m, (retrier t).Timely o time m → s.Tries (due t o) time m →
    (m.perform t s).Ensures (Tally.surroundings sign?)
      (fun _ o' => o'.attempts = o.attempts + 1) ((retrier t).begin o time m)
  /-- No other move attempts anything, and the attempt to come stays as it is. -/
  patience : ∀ time m, (retrier t).Timely o time m → ¬ s.Tries (due t o) time m →
    (m.perform t s).Ensures (Tally.surroundings sign?) (fun s' o' => o'.attempts = o.attempts ∧
      (o.Waits → o' = (retrier t).begin o time m ∧
        (s'.state = s.state ∨ (∃ now, m = .operate (.update false now)) ∧ s'.state = .idle)))
      ((retrier t).begin o time m)

/-! ### Signs -/

variable {s : Session} {o : Tally} {t : Timing} {now : Clock}

/-- The calls that say nothing of the attempts. -/
abbrev Unsigned (c : Hardware.Call) : Prop := sign? c = none

/-- Nothing changed that attempts are reckoned by, but that the session may have been set up or shut
down. -/
structure Kept (s s' : Session) : Prop where
  state : s'.state = s.state
  failures : s'.failures = s.failures
  retryAt : s'.retryAt = s.retryAt
  configured : s.configured = true → s'.configured = true
  stopped : s'.stopped = false → s.stopped = false

lemma Kept.rfl {s : Session} : s.Kept s := ⟨Eq.refl _, Eq.refl _, Eq.refl _, id, id⟩

/-- The session after a failure. -/
def failed (t : Timing) (s : Session) (now : Clock) : Session := { s with
  failures := countFailure s.failures
  retryAt := now + backoffDelay t.mqttBackoffBase t.mqttBackoffMax s.failures
  state := .backoff }

/-- The session after it lost its connection. -/
def lost (t : Timing) (s : Session) (now : Clock) : Session := { s with
  retryAt := now + backoffDelay t.mqttBackoffBase t.mqttBackoffMax 0
  failures := 1
  state := .backoff }

/-- The session that asks for a connection. -/
def asking (s : Session) (now : Clock) : Session := { s with
  generation := s.generation + 1
  connection := { s.connection with generation := s.generation + 1 }
  startedAt := now
  state := .connecting }

lemma transition_tally {next : SessionState} (hn : next ≠ s.state) :
    (s.transition next now).Ensures (Tally.surroundings sign?)
      (fun s' o' => s' = { s with state := next } ∧ o' = next.sign?.elim o o.see) o := by
  unfold transition
  rw [if_neg hn]
  rintro queued _ rfl
  have hsign : sign? (.post { kind := .sessionChanged, time := now, arg := next.code }) =
      next.sign? := by
    simp [sign?, SessionState.ofCode?_code]
  rw [hsign]
  cases queued with
  | true => exact ⟨rfl, rfl⟩
  | false =>
    rintro _ _ rfl
    exact ⟨rfl, rfl⟩

lemma teardown_unsigned (s : Session) : s.teardown.Confined Unsigned fun _ => True := by
  simp [teardown, Unsigned, sign?]

lemma announce_unsigned (s : Session) : s.announce.Confined Unsigned fun _ => True := by
  simp [announce, Unsigned, sign?]

lemma publishPending_unsigned (s : Session) : s.publishPending.Confined Unsigned (s.Kept ·) := by
  unfold publishPending
  split
  · exact .rfl
  refine ⟨rfl, fun taken => ?_⟩
  cases taken with
  | true => exact ⟨rfl, rfl, rfl, id, id⟩
  | false => exact Kept.rfl

lemma receive_unsigned (s : Session) (payload : Bytes) :
    (s.receive payload now).Confined Unsigned (· = s) := by
  unfold receive
  cases LockState.ofCommand? payload <;> simp [Unsigned, sign?]

lemma fail_tally (hs : s.state ≠ .backoff) (why : Failure) :
    (s.fail t now why).Ensures (Tally.surroundings sign?)
      (fun s' o' => s' = s.failed t now ∧ o' = o.see .failed) o := by
  refine (Tally.ensures_of_unsigned s.teardown_unsigned).bind ?_
  rintro _ _ ⟨-, rfl⟩ _ _ rfl
  refine (transition_tally ?_).mono fun _ _ hs' => hs'
  exact hs.symm

lemma lose_tally (hs : s.state ≠ .backoff) :
    (s.lose t now).Ensures (Tally.surroundings sign?)
      (fun s' o' => s' = s.lost t now ∧ o' = o.see .failed) o := by
  rintro _ _ rfl
  refine (transition_tally ?_).mono fun _ _ hs' => hs'
  exact hs.symm

lemma connect_tally (hs : s.state ≠ .connecting) :
    (s.connect t now).Ensures (Tally.surroundings sign?) (fun s' o' =>
      s' = s.asking now ∧ o' = o.see .asked ∨
      s' = (s.asking now).failed t now ∧ o' = (o.see .asked).see .failed) o := by
  refine (transition_tally ?_).bind ?_
  · exact hs.symm
  rintro _ _ ⟨rfl, rfl⟩ taken _ rfl
  cases taken with
  | true =>
    rintro _ _ rfl
    exact .inl ⟨rfl, rfl⟩
  | false =>
    refine (fail_tally ?_ .refused).mono fun _ _ hs' => .inr hs'
    exact (nofun : SessionState.connecting ≠ .backoff)

/-- An announcement that is refused is a failure. -/
lemma enterConnected_tally (hs : s.state = .connecting) :
    (s.enterConnected t now).Ensures (Tally.surroundings sign?) (fun s' o' =>
      s' = { s with state := .connected } ∧ o' = o ∨
      s' = { s with state := .connected }.failed t now ∧ o' = o.see .failed) o := by
  refine (transition_tally ?_).bind ?_
  · rw [hs]
    nofun
  rintro _ _ ⟨rfl, rfl⟩
  refine (Tally.ensures_of_unsigned (announce_unsigned _)).bind ?_
  rintro ok _ ⟨-, rfl⟩
  cases ok with
  | true => exact .inl ⟨rfl, rfl⟩
  | false =>
    refine (fail_tally ?_ .announce).mono fun _ _ hs' => .inr hs'
    exact (nofun : SessionState.connected ≠ .backoff)

lemma enterSubscribed_tally (hs : s.state = .connected) :
    (s.enterSubscribed now).Ensures (Tally.surroundings sign?) (fun s' o' =>
      Kept { s with failures := 0, state := .subscribed } s' ∧ o' = o.see .succeeded) o := by
  rintro _ _ rfl
  refine (transition_tally (s := { s with failures := 0 }) ?_).bind ?_
  · exact fun he => absurd (hs.symm.trans he.symm) nofun
  rintro _ _ ⟨rfl, rfl⟩
  refine (Tally.ensures_of_unsigned (publishPending_unsigned _)).mono ?_
  rintro s' o' ⟨hs', rfl⟩
  exact ⟨⟨hs'.state, hs'.failures, hs'.retryAt, hs'.configured, hs'.stopped⟩, rfl⟩

/-! ### What the tally knows of a session -/

/-- The session counts as the tally does. -/
structure Reckons (t : Timing) (s : Session) (o : Tally) : Prop extends
    o.Paced t.mqttBackoffBase t.mqttBackoffMax s.failures s.retryAt where
  waits : s.state = .backoff → o.Waits
  awaits : o.Waits → s.state = .backoff ∨ s.state = .idle
  /-- Nothing begins but with an update of a session that is set up. -/
  begun : s.state ≠ .idle → s.configured = true ∧ o.polled ≠ none

/-- While the time of an attempt is to come, no update was late for it. -/
def Prompt (t : Timing) (s : Session) (o : Tally) : Prop :=
  s.state = .backoff → s.stopped = false → o.Prompt t.mqttBackoffBase t.mqttBackoffMax

/-- What becomes of a session and its tally in an operation. -/
structure Advances (t : Timing) (s : Session) (o : Tally) (time : Nat) (m : Move) (s' : Session)
    (o' : Tally) : Prop where
  reckons : s'.Reckons t o'
  prompt : s'.Prompt t o'
  attempts : s.Tries (due t o) time m → o'.attempts = o.attempts + 1
  patience : ¬ s.Tries (due t o) time m → o'.attempts = o.attempts ∧
    (o.Waits → o' = (retrier t).begin o time m ∧
      (s'.state = s.state ∨ (∃ now, m = .operate (.update false now)) ∧ s'.state = .idle))

namespace Reckons

variable {s' : Session}

lemma not_waits (h : s.Reckons t o) (hs : s.state.active = true) : ¬ o.Waits := by
  intro hw
  rcases h.awaits hw with he | he <;> simp [he, SessionState.active] at hs

lemma asked (h : s.Reckons t o) (hp : s.configured = true ∧ o.polled ≠ none) (now : Clock) :
    (s.asking now).Reckons t (o.see .asked) where
  toPaced := h.toPaced.asked
  waits := nofun
  awaits hw := by simp [Tally.see_waits] at hw
  begun _ := hp

lemma connected (h : s.Reckons t o) (hs : s.state = .connecting) :
    { s with state := .connected }.Reckons t o where
  toPaced := h.toPaced
  waits := nofun
  awaits hw := absurd hw (h.not_waits (by rw [hs]; rfl))
  begun _ := h.begun (by rw [hs]; nofun)

lemma succeeded (h : s.Reckons t o) (hs : s.state = .connected)
    (hs' : Kept { s with failures := 0, state := .subscribed } s') :
    s'.Reckons t (o.see .succeeded) where
  toPaced := hs'.failures ▸ hs'.retryAt ▸ h.toPaced.succeeded
  waits hbackoff := absurd (hs'.state.symm.trans hbackoff) nofun
  awaits hw := by simp [Tally.see_waits] at hw
  begun _ := (h.begun (by rw [hs]; nofun)).imp_left hs'.configured

lemma failed (h : s.Reckons t o) (hs : s.state ≠ .idle) (ho : o.losing = false)
    (hnow : now = .ofNat o.now) : (s.failed t now).Reckons t (o.see .failed) where
  toPaced := h.toPaced.failed ho hnow
  waits _ := rfl
  awaits _ := .inl rfl
  begun _ := h.begun hs

lemma lost (h : s.Reckons t o) (hs : s.state ≠ .idle) (ho : o.losing = true)
    (hnow : now = .ofNat o.now) : (s.lost t now).Reckons t (o.see .failed) where
  toPaced := h.toPaced.lost (by simp [ho]) hnow
  waits _ := rfl
  awaits _ := .inl rfl
  begun _ := h.begun hs

end Reckons

section

variable {time : Nat} {m : Move}

lemma Reckons.begin (h : s.Reckons t o) (ht : (retrier t).Timely o time m) :
    s.Reckons t ((retrier t).begin o time m) where
  toPaced := ht.reckoned h.toPaced
  waits := h.waits
  awaits := h.awaits
  begun hs := (h.begun hs).imp_right Retrier.begin_polled

lemma Advances.quiet (h : s.Reckons t o) (hp : s.Prompt t o) (ht : (retrier t).Timely o time m)
    (hop : ¬ s.Tries (due t o) time m)
    (hearly : (retrier t).updates m = true → s.state = .backoff → s.stopped = false →
      time ≤ due t o) {s' : Session} (hs : s.Kept s') :
    s.Advances t o time m s' ((retrier t).begin o time m) := by
  have hb := h.begin ht
  refine ⟨⟨hs.failures ▸ hs.retryAt ▸ hb.toPaced, hs.state ▸ hb.waits, hs.state ▸ hb.awaits,
    fun hbegun => ?_⟩, fun hbackoff hrun => ?_, fun htries => absurd htries hop,
    fun _ => ⟨rfl, fun _ => ⟨rfl, .inl hs.state⟩⟩⟩
  · exact (hb.begun (hs.state ▸ hbegun)).imp_left hs.configured
  · rw [hs.state] at hbackoff
    have hrun := hs.stopped hrun
    exact Retrier.begin_prompt (hp hbackoff hrun) fun hup => hearly hup hbackoff hrun

lemma not_idle (hs : s.state.active = true) : s.state ≠ .idle ∧ s.state ≠ .backoff := by
  constructor <;> rintro he <;> simp [he, SessionState.active] at hs

/-- While there is a connection, nothing is to come that could be late. -/
lemma prompt_of_active (hs : s.state.active = true) (o : Tally) : s.Prompt t o := by
  intro he
  simp [he, SessionState.active] at hs

lemma connect_advances (h : s.Reckons t o) (ht : (retrier t).Timely o time m)
    (hop : s.Tries (due t o) time m)
    (hbegun : s.configured = true ∧ ((retrier t).begin o time m).polled ≠ none)
    (hlosing : ((retrier t).begin o time m).losing = false) (hnow : now = .ofNat time)
    (hs : s.state ≠ .connecting) :
    (s.connect t now).Ensures (Tally.surroundings sign?) (s.Advances t o time m)
      ((retrier t).begin o time m) := by
  have hasked := (h.begin ht).asked hbegun now
  refine (connect_tally hs).mono ?_
  rintro s' o' (⟨rfl, rfl⟩ | ⟨rfl, rfl⟩)
  · exact ⟨hasked, prompt_of_active rfl _, fun _ => rfl, fun hnot => absurd hop hnot⟩
  · exact ⟨hasked.failed nofun hlosing hnow, fun _ _ => hasked.past.prompt hbegun.2 _ _, fun _ => rfl,
      fun hnot => absurd hop hnot⟩

lemma Advances.ended (h : s.Reckons t o) (hs : s.state.active = true)
    (hop : ¬ s.Tries (due t o) time m) {o' : Tally} (ho : o'.attempts = o.attempts) {s' : Session}
    (hs' : s'.Reckons t o') (hp : s'.Prompt t o') : s.Advances t o time m s' o' :=
  ⟨hs', hp, fun htries => absurd htries hop, fun _ => ⟨ho, fun hw => absurd hw (h.not_waits hs)⟩⟩

lemma fail_advances (h : s.Reckons t o) (ht : (retrier t).Timely o time m)
    (hop : ¬ s.Tries (due t o) time m)
    (hlosing : ((retrier t).begin o time m).losing = false) (hnow : now = .ofNat time)
    (hs : s.state.active = true) (why : Failure) :
    (s.fail t now why).Ensures (Tally.surroundings sign?) (s.Advances t o time m)
      ((retrier t).begin o time m) := by
  obtain ⟨hidle, hbackoff⟩ := not_idle hs
  refine (fail_tally hbackoff why).mono ?_
  rintro s' o' ⟨rfl, rfl⟩
  have hb := h.begin ht
  exact .ended h hs hop (by rfl) (hb.failed hidle hlosing hnow) fun _ _ =>
    hb.past.prompt (hb.begun hidle).2 _ _

end

variable {time : Nat}

lemma update_advances (hcap : t.mqttBackoffMax < 0x80000000) (h : s.Reckons t o) (hp : s.Prompt t o)
    {linkUp : Bool} (ht : (retrier t).Timely o time (.operate (.update linkUp now))) :
    (s.update t linkUp now).Ensures (Tally.surroundings sign?)
      (s.Advances t o time (.operate (.update linkUp now)))
      ((retrier t).begin o time (.operate (.update linkUp now))) := by
  have hnow : now = .ofNat time := ht.right now rfl
  have hpolled : ((retrier t).begin o time (.operate (.update linkUp now))).polled ≠ none := nofun
  unfold update
  split
  · rename_i hrun
    have hrest (hc : s.configured = true) (hs : s.stopped = false) : False := by simp [hc, hs] at hrun
    refine .quiet h hp ht (fun hop => hrest hop.1 hop.2.1) (fun _ hs hstopped => ?_) .rfl
    exact (hrest (h.begun (by rw [hs]; nofun)).1 hstopped).elim
  rename_i hrun
  simp only [Bool.or_eq_true, Bool.not_eq_true', not_or, Bool.not_eq_false, Bool.not_eq_true] at hrun
  cases linkUp with
  | false =>
    have hop : ¬ s.Tries (due t o) time (.operate (.update false now)) :=
      fun hop => absurd hop.2.2.1 nofun
    rw [if_pos Bool.not_false]
    split
    · rename_i hidle
      exact .quiet h hp ht hop (fun _ hs => absurd (hidle.symm.trans hs) nofun) .rfl
    rename_i hidle
    refine (Tally.ensures_of_unsigned s.teardown_unsigned).bind ?_
    rintro _ _ ⟨-, rfl⟩
    refine (transition_tally fun he => hidle he.symm).mono ?_
    rintro s' o' ⟨rfl, rfl⟩
    have hb := h.begin ht
    exact ⟨⟨hb.toPaced, nofun, fun _ => .inr rfl, fun hs => absurd rfl hs⟩, nofun,
      fun htries => absurd htries hop, fun _ => ⟨rfl, fun _ => ⟨rfl, .inr ⟨⟨now, rfl⟩, rfl⟩⟩⟩⟩
  | true =>
    have hquiet (hs : s.state ≠ .idle) (hdue : ¬ (s.state = .backoff ∧ due t o ≤ time))
        {s' : Session} (hs' : s.Kept s') :
        s.Advances t o time (.operate (.update true now)) s'
          ((retrier t).begin o time (.operate (.update true now))) := by
      refine .quiet h hp ht (fun hop => hop.2.2.2.elim hs hdue) (fun _ hbackoff _ => ?_) hs'
      by_contra hlate
      exact hdue ⟨hbackoff, Nat.le_of_not_le hlate⟩
    have hsetup (hs : s.state.active = true) :
        (if t.mqttConnectTimeout ≤ now - s.startedAt then s.fail t now .timeout else pure s).Ensures
          (Tally.surroundings sign?) (s.Advances t o time (.operate (.update true now)))
          ((retrier t).begin o time (.operate (.update true now))) := by
      obtain ⟨hidle, hbackoff⟩ := not_idle hs
      split
      · exact fail_advances h ht (fun hop => hop.2.2.2.elim hidle fun he => hbackoff he.1) rfl hnow hs
          .timeout
      · exact hquiet hidle (fun he => hbackoff he.1) .rfl
    rw [if_neg (by simp)]
    cases hstate : s.state with
    | idle =>
      refine connect_advances h ht ⟨hrun.1, hrun.2, rfl, .inl hstate⟩ ⟨hrun.1, hpolled⟩ rfl hnow ?_
      rw [hstate]
      nofun
    | backoff =>
      have hreached : Clock.reached now s.retryAt = true ↔ due t o ≤ time := by
        rw [hnow, h.schedule (h.waits hstate)]
        exact ht.reached_iff rfl h.past hcap (hp hstate hrun.2)
      change (ite _ _ _ : Program Hardware Session).Ensures _ _ _
      split
      · rename_i hdue
        refine connect_advances h ht ⟨hrun.1, hrun.2, rfl, .inr ⟨hstate, hreached.1 hdue⟩⟩
          ⟨hrun.1, hpolled⟩ rfl hnow ?_
        rw [hstate]
        nofun
      · rename_i hdue
        exact hquiet (by rw [hstate]; nofun) (fun he => hdue (hreached.2 he.2)) .rfl
    | connecting => exact hsetup (by rw [hstate]; rfl)
    | connected => exact hsetup (by rw [hstate]; rfl)
    | subscribed =>
      obtain ⟨hidle, hbackoff⟩ := not_idle (by rw [hstate]; rfl)
      refine (Tally.ensures_of_unsigned s.publishPending_unsigned).mono ?_
      rintro s' o' ⟨hs', rfl⟩
      exact hquiet hidle (fun he => hbackoff he.1) hs'

lemma handle_advances (h : s.Reckons t o) (hp : s.Prompt t o) {e : Event}
    (ht : (retrier t).Timely o time (.operate (.handle e now))) :
    (s.handle t e now).Ensures (Tally.surroundings sign?)
      (s.Advances t o time (.operate (.handle e now)))
      ((retrier t).begin o time (.operate (.handle e now))) := by
  have hnow : now = .ofNat time := ht.right now rfl
  have hop : ¬ s.Tries (due t o) time (.operate (.handle e now)) := id
  have hquiet : s.Advances t o time (.operate (.handle e now)) s
      ((retrier t).begin o time (.operate (.handle e now))) := .quiet h hp ht hop nofun .rfl
  have hb := h.begin ht
  have hfail (hlosing : e.kind ≠ .transportLost) (hs : s.state.active = true) :=
    fail_advances h ht hop (decide_eq_false hlosing) hnow hs
  unfold handle
  split
  · exact hquiet
  split
  · exact hquiet
  cases hk : e.kind with
  | transportUp =>
    change (ite _ _ _ : Program Hardware Session).Ensures _ _ _
    split
    · rename_i hs
      have hactive : s.state.active = true := by
        rw [hs]
        rfl
      have hconnected := hb.connected hs
      refine (enterConnected_tally hs).mono ?_
      rintro s' o' (⟨rfl, rfl⟩ | ⟨rfl, rfl⟩)
      · refine .ended h hactive hop (by rfl) hconnected (prompt_of_active ?_ _)
        rfl
      · have hlosing : e.kind ≠ .transportLost := by
          rw [hk]
          nofun
        exact .ended h hactive hop (by rfl) (hconnected.failed nofun (decide_eq_false hlosing) hnow)
          fun _ _ => hb.past.prompt (hconnected.begun nofun).2 _ _
    · exact hquiet
  | transportFailed =>
    change (ite _ _ _ : Program Hardware Session).Ensures _ _ _
    split
    · rename_i hs
      exact hfail (by rw [hk]; nofun) (by rw [hs]; rfl) .connect
    · exact hquiet
  | subscribed =>
    change (ite _ _ _ : Program Hardware Session).Ensures _ _ _
    split
    · rename_i hs
      have hactive : s.state.active = true := by
        rw [hs]
        rfl
      refine (enterSubscribed_tally hs).mono ?_
      rintro s' o' ⟨hs', rfl⟩
      refine .ended h hactive hop (by rfl) (hb.succeeded hs hs') (prompt_of_active ?_ _)
      rw [hs'.state]
      rfl
    · exact hquiet
  | publishFailed =>
    change (ite _ _ _ : Program Hardware Session).Ensures _ _ _
    split
    · rename_i hs
      refine hfail (by rw [hk]; nofun) ?_ .publish
      cases hstate : s.state <;> simp_all [SessionState.announced, SessionState.active]
    · exact hquiet
  | transportLost =>
    change (ite _ _ _ : Program Hardware Session).Ensures _ _ _
    split
    · rename_i hs
      obtain ⟨hidle, hbackoff⟩ := not_idle hs
      refine (lose_tally hbackoff).mono ?_
      rintro s' o' ⟨rfl, rfl⟩
      exact .ended h hs hop (by rfl) (hb.lost hidle (decide_eq_true hk) hnow) fun _ _ =>
        hb.past.prompt (hb.begun hidle).2 _ _
    · exact hquiet
  | message =>
    change (ite _ _ _ : Program Hardware Session).Ensures _ _ _
    split
    · refine (Tally.ensures_of_unsigned (receive_unsigned s _)).mono ?_
      rintro s' o' ⟨rfl, rfl⟩
      exact hquiet
    · exact hquiet
  | _ => exact hquiet

lemma publish_advances (h : s.Reckons t o) (hp : s.Prompt t o) (l : LockState) (d : DoorState)
    (ht : (retrier t).Timely o time (.operate (.publish l d))) :
    (s.publish l d).Ensures (Tally.surroundings sign?) (s.Advances t o time (.operate (.publish l d)))
      ((retrier t).begin o time (.operate (.publish l d))) := by
  have hunsigned : (s.publish l d).Confined Unsigned (s.Kept ·) := by
    unfold publish
    dsimp only
    split
    · refine (publishPending_unsigned _).mono (fun _ => id) fun _ hs' => ?_
      exact ⟨hs'.state, hs'.failures, hs'.retryAt, hs'.configured, hs'.stopped⟩
    · exact ⟨rfl, rfl, rfl, id, id⟩
  refine (Tally.ensures_of_unsigned hunsigned).mono ?_
  rintro s' o' ⟨hs', rfl⟩
  exact .quiet h hp ht id nofun hs'

lemma shutdown_advances (h : s.Reckons t o) (hp : s.Prompt t o)
    (ht : (retrier t).Timely o time (.operate .shutdown)) :
    (s.shutdown t).Ensures (Tally.surroundings sign?) (s.Advances t o time (.operate .shutdown))
      ((retrier t).begin o time (.operate .shutdown)) := by
  have hunsigned : (s.shutdown t).Confined Unsigned (s.Kept ·) := by
    unfold shutdown
    split
    · exact .rfl
    · refine s.teardown_unsigned.bind fun _ _ => ?_
      have hstopped : s.Kept { s with stopped := true } := ⟨rfl, rfl, rfl, id, nofun⟩
      simp [Unsigned, sign?, hstopped]
  refine (Tally.ensures_of_unsigned hunsigned).mono ?_
  rintro s' o' ⟨hs', rfl⟩
  exact .quiet h hp ht id nofun hs'

/-- A configuration that is accepted makes no attempt, and changes nothing but what is to be said. -/
lemma configure_unsigned (s : Session) {c : Config} (hc : (Move.configure c).Accepted) :
    (s.configure c).Confined Unsigned fun r => s.Kept r.2 := by
  have hkept : (s.configure c).Confined Unsigned fun r => r.1 = true → s.Kept r.2 := by
    simp only [configure]
    split
    · exact ⟨rfl, fun _ h => absurd h Bool.false_ne_true⟩
    cases Document.discovery? c (s.topics.build c.deviceId.view).2 with
    | none => exact ⟨rfl, fun _ h => absurd h Bool.false_ne_true⟩
    | some d =>
      dsimp only
      split
      · exact ⟨rfl, fun _ h => absurd h Bool.false_ne_true⟩
      · exact fun _ => ⟨rfl, rfl, rfl, fun _ => rfl, id⟩
  exact (hkept.and (hc s)).mono (fun _ => And.left) fun _ hr => hr.1 hr.2

lemma perform_advances (hcap : t.mqttBackoffMax < 0x80000000) (h : s.Reckons t o)
    (hp : s.Prompt t o) {m : Move} (ht : (retrier t).Timely o time m) :
    (m.perform t s).Ensures (Tally.surroundings sign?) (s.Advances t o time m)
      ((retrier t).begin o time m) := by
  cases m with
  | configure c =>
    refine (Tally.ensures_of_unsigned (configure_unsigned s ht.proper)).bind ?_
    rintro r o' ⟨hs', rfl⟩
    exact .quiet h hp ht id nofun hs'
  | operate op =>
    cases op with
    | update linkUp now => exact update_advances hcap h hp ht
    | handle e now => exact handle_advances h hp ht
    | publish l d => exact publish_advances h hp l d ht
    | shutdown => exact shutdown_advances h hp ht

lemma Reckons.punctual (hcap : t.mqttBackoffMax < 0x80000000) (h : s.Reckons t o)
    (hp : s.Prompt t o) : s.Punctual t o where
  waits := h.waits
  awaits := h.awaits
  schedule := h.schedule
  attempt _ _ ht hop := (perform_advances hcap h hp ht).mono fun _ _ hs' => hs'.attempts hop
  patience _ _ ht hop := (perform_advances hcap h hp ht).mono fun _ _ hs' => hs'.patience hop

/-- Whatever is done to a new session, as long as it is proper and in time, it retries on schedule. -/
lemma throughout_punctual (hcap : t.mqttBackoffMax < 0x80000000) (moves : List (Nat × Move)) :
    (retrier t).Throughout (Punctual t) moves {} {} := by
  have hnew : Reckons t {} {} := ⟨⟨⟨Nat.le_refl _, nofun⟩, rfl, nofun⟩, nofun, nofun, by simp⟩
  have hkeep (s : Session) (o : Tally) (time : Nat) (m : Move)
      (hs : s.Reckons t o ∧ s.Prompt t o) (ht : (retrier t).Timely o time m) :=
    (perform_advances hcap hs.1 hs.2 ht).mono fun _ _ hs' => And.intro hs'.reckons hs'.prompt
  exact Retrier.throughout_of_keep hkeep (fun s o hs => hs.1.punctual hcap hs.2) moves
    ⟨hnew, nofun⟩

end Session

end DoorControl
