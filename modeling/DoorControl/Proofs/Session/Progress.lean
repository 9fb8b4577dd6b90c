import DoorControl.Proofs.Progress
import DoorControl.Proofs.Session.Schedule

/-!
A session does not get stuck: after each update over a link it is subscribed, or its attempt is
young, or the time of the next one is ahead. Updates that come while it is not set up do nothing,
and do not count.
-/

namespace DoorControl

open Program

namespace Session

/-- The session as something that attempts whatever it is set up with. It heeds updates only while
it is set up. -/
def heeding (t : Timing) (s : Session) : Retrier Session Move := { retrier t with
  updates := fun m => s.configured && (retrier t).updates m
  proper := fun _ => True }

/-- A session that gets on. Its last attempt was made at `began`. -/
def Moving (t : Timing) (s : Session) (o : Tally) (began : Nat) : Prop :=
  s.state = .subscribed ∨
  ((s.state = .connecting ∨ s.state = .connected) ∧
    began ≤ o.now ∧ o.now < began + t.mqttConnectTimeout.toNat) ∨
  (s.state = .backoff ∧ s.retryAt = .ofNat (due t o) ∧ o.Ahead t.mqttBackoffBase t.mqttBackoffMax)

instance (t : Timing) (s : Session) (o : Tally) (began : Nat) : Decidable (s.Moving t o began) :=
  inferInstanceAs (Decidable (_ ∨ _ ∨ _))

/-- After an update in time over a link, a session gets on that is set up and was not shut down. -/
def Unstalled (t : Timing) (s : Session) (o : Tally) (began : Nat) : Prop :=
  ∀ time now, (heeding t s).Timely o time (.operate (.update true now)) →
    s.configured = true → s.stopped = false →
    (s.update t true now).Ensures (Tally.surroundings sign?)
      (fun s' o' => s'.Moving t o' (o'.attemptedAt o.attempts began))
      ((heeding t s).begin o time (.operate (.update true now)))

variable {s s' : Session} {o : Tally} {t : Timing} {now : Clock} {time began : Nat} {m : Move}

/-! ### While the session is set up -/

lemma heeding_begin (hc : s.configured = true) :
    (heeding t s).begin o time m = (retrier t).begin o time m := by
  simp [Retrier.begin, heeding, hc]

lemma timely_of_heeding (hc : s.configured = true) (ht : (heeding t s).Timely o time m)
    (hm : m.Accepted) : (retrier t).Timely o time m where
  proper := hm
  forward := ht.forward
  right := ht.right
  paced hup := ht.paced (by simp [heeding, hc, hup])

/-! ### The age of an attempt -/

/-- An attempt in course was young in the last update. -/
def Fresh (t : Timing) (s : Session) (o : Tally) (began : Nat) : Prop :=
  s.state = .connecting ∨ s.state = .connected → s.stopped = false →
    o.Young t.mqttConnectTimeout s.startedAt began

/-- What becomes of the age of an attempt in an operation. -/
abbrev Ages (t : Timing) (o : Tally) (began : Nat) (s' : Session) (o' : Tally) : Prop :=
  s'.Fresh t o' (o'.attemptedAt o.attempts began)

lemma fresh_of_eq (x : SessionState) (hs : s.state = x) (hx : x ≠ .connecting ∧ x ≠ .connected)
    (o : Tally) (began : Nat) : s.Fresh t o began := by
  subst hs
  exact fun he => (he.elim hx.1 hx.2).elim

lemma Fresh.quiet (h : s.Fresh t o began) {n : Retrier Session Move} (ht : n.Timely o time m)
    (hop : n.updates m = true → time < began + t.mqttConnectTimeout.toNat)
    (hs : s'.state = .connecting ∨ s'.state = .connected →
      (s.state = .connecting ∨ s.state = .connected) ∧ s'.startedAt = s.startedAt)
    (hstopped : s'.stopped = false → s.stopped = false) :
    s'.Ages t o began (n.begin o time m) := by
  intro he hrun
  obtain ⟨hstate, hstarted⟩ := hs he
  rw [Retrier.begin_attemptedAt, hstarted]
  exact ht.young (h hstate (hstopped hrun)) hop

lemma connect_ages (hlimit : 1 ≤ t.mqttConnectTimeout) (hpast : o.Past) (hpolled : o.polled ≠ none)
    (hnow : now = .ofNat o.now) (hs : s.state ≠ .connecting) (began : Nat) :
    (s.connect t now).Ensures (Tally.surroundings sign?)
      (fun s' o' => s'.Ages t o began o' ∧ s'.state ≠ .idle) o := by
  refine (connect_tally hs).mono ?_
  rintro s' o' (⟨rfl, rfl⟩ | ⟨rfl, rfl⟩)
  · refine ⟨fun _ _ => ?_, nofun⟩
    rw [Tally.attemptedAt_asked, hnow]
    exact Tally.Young.new (hpast.see .asked) hpolled hlimit
  · exact ⟨fresh_of_eq .backoff rfl (by decide) _ _, nofun⟩

lemma fail_ages (hs : s.state ≠ .backoff) (why : Failure) {o₀ : Tally} :
    (s.fail t now why).Ensures (Tally.surroundings sign?)
      (fun s' o' => s'.Ages t o₀ began o' ∧ s'.state ≠ .idle) o := by
  refine (fail_tally hs why).mono ?_
  rintro s' o' ⟨rfl, -⟩
  exact ⟨fresh_of_eq .backoff rfl (by decide) _ _, nofun⟩

lemma update_down_ages (hc : s.configured = true) :
    (s.update t false now).Ensures (Tally.surroundings sign?) (fun s' o' => s'.Ages t o began o')
      ((retrier t).begin o time (.operate (.update false now))) := by
  unfold update
  split
  · rename_i hrest
    have hstopped : s.stopped = true := by simpa [hc] using hrest
    exact fun _ hrun => absurd (hstopped.symm.trans hrun) nofun
  rw [if_pos Bool.not_false]
  split
  · rename_i hidle
    exact fresh_of_eq .idle hidle (by decide) _ _
  rename_i hidle
  refine (Tally.ensures_of_unsigned s.teardown_unsigned).bind ?_
  rintro _ _ ⟨-, rfl⟩
  refine (transition_tally fun he => hidle he.symm).mono ?_
  rintro s' o' ⟨rfl, -⟩
  exact fresh_of_eq .idle rfl (by decide) _ _

section

variable (hlimit : 1 ≤ t.mqttConnectTimeout) (hlimitMax : t.mqttConnectTimeout < 0x80000000)
include hlimit hlimitMax

lemma update_up_ages (hc : s.configured = true) (h : s.Fresh t o began) (hpast : o.Past)
    (ht : (retrier t).Timely o time (.operate (.update true now))) :
    (s.update t true now).Ensures (Tally.surroundings sign?)
      (fun s' o' => s'.Ages t o began o' ∧ (s.stopped = false → s'.state ≠ .idle))
      ((retrier t).begin o time (.operate (.update true now))) := by
  have hnow : now = .ofNat time := ht.right now rfl
  unfold update
  split
  · rename_i hrest
    have hstopped : s.stopped = true := by simpa [hc] using hrest
    have hrun (hs : s.stopped = false) : False := absurd (hstopped.symm.trans hs) nofun
    exact ⟨fun _ hs => (hrun hs).elim, fun hs => (hrun hs).elim⟩
  rename_i hrest
  have hrun : s.stopped = false := by simpa [hc] using hrest
  have hconnect (hs : s.state ≠ .connecting) :
      (s.connect t now).Ensures (Tally.surroundings sign?)
        (fun s' o' => s'.Ages t o began o' ∧ (s.stopped = false → s'.state ≠ .idle))
        ((retrier t).begin o time (.operate (.update true now))) :=
    (connect_ages hlimit (ht.past hpast) nofun hnow hs began).mono
      fun s' o' hs' => ⟨hs'.1, fun _ => hs'.2⟩
  have hsetup (hs : s.state = .connecting ∨ s.state = .connected) :
      (if t.mqttConnectTimeout ≤ now - s.startedAt then s.fail t now .timeout else pure s).Ensures
        (Tally.surroundings sign?)
        (fun s' o' => s'.Ages t o began o' ∧ (s.stopped = false → s'.state ≠ .idle))
        ((retrier t).begin o time (.operate (.update true now))) := by
    have hne {x : SessionState} (hx : x ≠ .connecting) (hx' : x ≠ .connected) : s.state ≠ x := by
      rintro rfl
      exact hs.elim hx hx'
    split
    · exact (fail_ages (hne nofun nofun) .timeout).mono fun s' o' hs' => ⟨hs'.1, fun _ => hs'.2⟩
    · rename_i hyoung
      rw [hnow, ht.expired_iff rfl (h hs hrun) hlimitMax] at hyoung
      exact ⟨h.quiet ht (fun _ => Nat.lt_of_not_le hyoung) (fun _ => ⟨hs, rfl⟩) id,
        fun _ => hne nofun nofun⟩
  rw [if_neg (by simp)]
  cases hstate : s.state with
  | idle => exact hconnect (by rw [hstate]; nofun)
  | backoff =>
    change (ite _ _ _ : Program Hardware Session).Ensures _ _ _
    split
    · exact hconnect (by rw [hstate]; nofun)
    · exact ⟨fresh_of_eq .backoff hstate (by decide) _ _, fun _ => by rw [hstate]; nofun⟩
  | connecting => exact hsetup (.inl hstate)
  | connected => exact hsetup (.inr hstate)
  | subscribed =>
    refine (Tally.ensures_of_unsigned s.publishPending_unsigned).mono ?_
    rintro s' o' ⟨hs', -⟩
    have hsubscribed := hs'.state.trans hstate
    exact ⟨fresh_of_eq .subscribed hsubscribed (by decide) _ _,
      fun _ => ne_of_eq_of_ne hsubscribed (by decide)⟩

end

lemma handle_ages (h : s.Fresh t o began) {e : Event}
    (ht : (retrier t).Timely o time (.operate (.handle e now))) :
    (s.handle t e now).Ensures (Tally.surroundings sign?) (fun s' o' => s'.Ages t o began o')
      ((retrier t).begin o time (.operate (.handle e now))) := by
  have hquiet : s.Ages t o began ((retrier t).begin o time (.operate (.handle e now))) :=
    h.quiet ht nofun (fun hs => ⟨hs, rfl⟩) id
  have hfail (hs : s.state ≠ .backoff) (why : Failure) :
      (s.fail t now why).Ensures (Tally.surroundings sign?) (fun s' o' => s'.Ages t o began o')
        ((retrier t).begin o time (.operate (.handle e now))) :=
    (fail_ages hs why).mono fun _ _ => And.left
  unfold handle
  split
  · exact hquiet
  split
  · exact hquiet
  cases hk : e.kind with
  | transportUp =>
    change (ite _ _ _ : Program Hardware Session).Ensures _ _ _
    split
    · rename_i hs
      refine (enterConnected_tally hs).mono ?_
      rintro s' o' (⟨rfl, rfl⟩ | ⟨rfl, rfl⟩)
      · exact h.quiet ht nofun (fun _ => ⟨.inl hs, rfl⟩) id
      · exact fresh_of_eq .backoff rfl (by decide) _ _
    · exact hquiet
  | transportFailed =>
    change (ite _ _ _ : Program Hardware Session).Ensures _ _ _
    split
    · rename_i hs
      exact hfail (by rw [hs]; nofun) .connect
    · exact hquiet
  | subscribed =>
    change (ite _ _ _ : Program Hardware Session).Ensures _ _ _
    split
    · rename_i hs
      refine (enterSubscribed_tally hs).mono ?_
      rintro s' o' ⟨hs', -⟩
      exact fresh_of_eq .subscribed hs'.state (by decide) _ _
    · exact hquiet
  | publishFailed =>
    change (ite _ _ _ : Program Hardware Session).Ensures _ _ _
    split
    · rename_i hs
      refine hfail (fun he => ?_) .publish
      simp [he, SessionState.announced] at hs
    · exact hquiet
  | transportLost =>
    change (ite _ _ _ : Program Hardware Session).Ensures _ _ _
    split
    · rename_i hs
      refine (lose_tally (not_idle hs).2).mono ?_
      rintro s' o' ⟨rfl, -⟩
      exact fresh_of_eq .backoff rfl (by decide) _ _
    · exact hquiet
  | message =>
    change (ite _ _ _ : Program Hardware Session).Ensures _ _ _
    split
    · refine (Tally.ensures_of_unsigned (receive_unsigned s _)).mono ?_
      rintro s' o' ⟨rfl, rfl⟩
      exact hquiet
    · exact hquiet
  | _ => exact hquiet

/-! ### Operations that are no matter of time -/

/-- Nothing changed that is kept of a session, but that it may have been set up or shut down. -/
structure Held (s s' : Session) : Prop where
  state : s'.state = s.state
  failures : s'.failures = s.failures
  retryAt : s'.retryAt = s.retryAt
  startedAt : s.state = .connecting ∨ s.state = .connected → s'.startedAt = s.startedAt
  stopped : s'.stopped = false → s.stopped = false

lemma Held.rfl : s.Held s := ⟨Eq.refl _, Eq.refl _, Eq.refl _, fun _ => Eq.refl _, id⟩

lemma configure_held (s : Session) (c : Config) :
    (s.configure c).Confined Unsigned fun r => s.Held r.2 := by
  simp only [configure]
  split
  · exact ⟨rfl, fun _ => ⟨rfl, rfl, rfl, fun _ => rfl, id⟩⟩
  cases Document.discovery? c (s.topics.build c.deviceId.view).2 with
  | none => exact ⟨rfl, fun _ => ⟨rfl, rfl, rfl, fun _ => rfl, id⟩⟩
  | some d =>
    dsimp only
    split
    · exact ⟨rfl, fun _ => ⟨rfl, rfl, rfl, fun _ => rfl, id⟩⟩
    · exact ⟨rfl, rfl, rfl, fun _ => rfl, id⟩

lemma publish_held (s : Session) (l : LockState) (d : DoorState) :
    (s.publish l d).Confined Unsigned (s.Held ·) := by
  unfold publish
  dsimp only
  split
  · rename_i hs
    refine (publishPending_unsigned _).mono (fun _ => id) fun _ hs' => ?_
    refine ⟨hs'.state, hs'.failures, hs'.retryAt, fun he => ?_, hs'.stopped⟩
    simp only [Bool.and_eq_true, decide_eq_true_eq] at hs
    simp [hs.1] at he
  · exact ⟨rfl, rfl, rfl, fun _ => rfl, id⟩

lemma shutdown_held (t : Timing) (s : Session) :
    (s.shutdown t).Confined Unsigned (s.Held ·) := by
  unfold shutdown
  split
  · exact .rfl
  · refine s.teardown_unsigned.bind fun _ _ => ?_
    have hstopped : s.Held { s with stopped := true } := ⟨rfl, rfl, rfl, fun _ => rfl, nofun⟩
    simp [Unsigned, sign?, hstopped]

/-! ### Progress -/

/-- The session as if it were set up. -/
def setUp (s : Session) : Session := { s with configured := true }

lemma setUp_of_configured (hc : s.configured = true) : s.setUp = s := by
  rw [setUp, ← hc]

/-- What is kept of a session that times its attempts and, set up or not, keeps to its schedule. -/
structure Steady (t : Timing) (s : Session) (o : Tally) (began : Nat) : Prop where
  reckons : s.setUp.Reckons t o
  prompt : s.Prompt t o
  fresh : s.Fresh t o began

/-- A session that keeps to its schedule keeps to it set up as well. -/
lemma Reckons.setUp (h : s.Reckons t o) : s.setUp.Reckons t o where
  toPaced := h.toPaced
  waits := h.waits
  awaits := h.awaits
  begun hs := ⟨rfl, (h.begun hs).2⟩

lemma Steady.held (h : s.Steady t o began) (ht : (heeding t s).Timely o time m)
    (hop : (heeding t s).updates m = false) (hs : s.Held s') :
    s'.Steady t ((heeding t s).begin o time m)
      (((heeding t s).begin o time m).attemptedAt o.attempts began) := by
  have hnot (hup : (heeding t s).updates m = true) : False := absurd (hop.symm.trans hup) nofun
  refine ⟨⟨?_, ?_, ?_, ?_⟩, ?_, ?_⟩
  · exact hs.failures ▸ hs.retryAt ▸ ht.reckoned h.reckons.toPaced
  · exact hs.state ▸ h.reckons.waits
  · exact hs.state ▸ h.reckons.awaits
  · exact fun he => ⟨rfl, Retrier.begin_polled (h.reckons.begun (hs.state ▸ he)).2⟩
  · intro hbackoff hrun
    exact Retrier.begin_prompt (h.prompt (hs.state ▸ hbackoff) (hs.stopped hrun))
      fun hup => (hnot hup).elim
  · refine h.fresh.quiet ht (fun hup => (hnot hup).elim) (fun he => ?_) hs.stopped
    rw [hs.state] at he
    exact ⟨he, hs.startedAt he⟩

section

variable (hbase : 1 ≤ t.mqttBackoffBase) (hcap : t.mqttBackoffBase ≤ t.mqttBackoffMax)
  (hmax : t.mqttBackoffMax < 0x80000000) (hlimit : 1 ≤ t.mqttConnectTimeout)
  (hlimitMax : t.mqttConnectTimeout < 0x80000000)
include hmax

/-- A session that is set up advances, and times its attempts. -/
lemma advance_steady (hc : s.configured = true) (h : s.Steady t o began)
    (ht : (heeding t s).Timely o time m) (hm : m.Accepted)
    (hages : (m.perform t s).Ensures (Tally.surroundings sign?) (fun s' o' => s'.Ages t o began o')
      ((retrier t).begin o time m)) :
    (m.perform t s).Ensures (Tally.surroundings sign?)
      (fun s' o' => s'.Steady t o' (o'.attemptedAt o.attempts began))
      ((heeding t s).begin o time m) := by
  have hreckons : s.Reckons t o := setUp_of_configured hc ▸ h.reckons
  rw [heeding_begin hc]
  refine ((perform_advances hmax hreckons h.prompt (timely_of_heeding hc ht hm)).and hages).mono ?_
  exact fun s' o' hs' => ⟨hs'.1.reckons.setUp, hs'.1.prompt, hs'.2⟩

include hlimit hlimitMax

lemma perform_steady (h : s.Steady t o began) (ht : (heeding t s).Timely o time m) :
    (m.perform t s).Ensures (Tally.surroundings sign?)
      (fun s' o' => s'.Steady t o' (o'.attemptedAt o.attempts began))
      ((heeding t s).begin o time m) := by
  have hheld (hop : (heeding t s).updates m = false)
      (hp : (m.perform t s).Confined Unsigned (s.Held ·)) :
      (m.perform t s).Ensures (Tally.surroundings sign?)
        (fun s' o' => s'.Steady t o' (o'.attemptedAt o.attempts began))
        ((heeding t s).begin o time m) := by
    refine (Tally.ensures_of_unsigned hp).mono ?_
    rintro s' o' ⟨hs', rfl⟩
    exact h.held ht hop hs'
  have hpast := h.reckons.past
  cases m with
  | configure c => exact hheld (Bool.and_false _) ((configure_held s c).bind fun _ hs' => hs')
  | operate op =>
    cases op with
    | update linkUp now =>
      by_cases hc : s.configured = true
      · have ht' := timely_of_heeding hc ht trivial
        refine advance_steady hmax hc h ht trivial ?_
        cases linkUp with
        | true =>
          exact (update_up_ages hlimit hlimitMax hc h.fresh hpast ht').mono fun _ _ => And.left
        | false => exact update_down_ages hc
      · refine hheld (by simp [heeding, hc]) ?_
        change (s.update t linkUp now).Confined _ _
        rw [update, if_pos (by simp [hc])]
        exact .rfl
    | handle e now =>
      by_cases hc : s.configured = true
      · have ht' := timely_of_heeding hc ht trivial
        exact advance_steady hmax hc h ht trivial (handle_ages h.fresh ht')
      · refine hheld (Bool.and_false _) ?_
        change (s.handle t e now).Confined _ _
        rw [handle, if_pos (by simp [hc])]
        exact .rfl
    | publish l d => exact hheld (Bool.and_false _) (publish_held s l d)
    | shutdown => exact hheld (Bool.and_false _) (shutdown_held t s)

include hbase hcap

lemma Steady.unstalled (h : s.Steady t o began) : s.Unstalled t o began := by
  intro time now ht hc hrun
  have hreckons : s.Reckons t o := setUp_of_configured hc ▸ h.reckons
  have ht' := timely_of_heeding hc ht trivial
  rw [heeding_begin hc]
  refine ((((update_advances hmax hreckons h.prompt ht').and
    (update_up_ages hlimit hlimitMax hc h.fresh h.reckons.past ht')).and
    (Gives.anyhow (update_standing t now rfl true) _)).and
    (Tally.ensures_within _ (.refl _))).mono ?_
  rintro s' o' ⟨⟨⟨hadvances, hfresh, hbusy⟩, hstanding⟩, hwithin⟩
  have hrun' : s'.stopped = false := (congrArg (·.2.1) hstanding).trans hrun
  have hyoung (hs : s'.state = .connecting ∨ s'.state = .connected) :
      s'.Moving t o' (o'.attemptedAt o.attempts began) :=
    .inr (.inl ⟨hs, Retrier.young_of_within rfl hwithin (hfresh hs hrun')⟩)
  cases hstate : s'.state with
  | subscribed => exact .inl hstate
  | connecting => exact hyoung (.inl hstate)
  | connected => exact hyoung (.inr hstate)
  | backoff =>
    have hwaits := hadvances.reckons.waits hstate
    refine .inr (.inr ⟨hstate, hadvances.reckons.schedule hwaits, ?_⟩)
    refine Retrier.ahead_of_waits hbase hcap hmax hwithin hadvances.reckons.past hwaits
      fun hwaited hattempts => ?_
    -- once the time had come, the update would have made an attempt
    by_contra hlate
    have hdue : s.state = .idle ∨ s.state = .backoff ∧ due t o ≤ time :=
      (hreckons.awaits hwaited).elim (fun hs => .inr ⟨hs, Nat.le_of_not_lt hlate⟩) .inl
    have hasked := hadvances.attempts ⟨hc, hrun, rfl, hdue⟩
    omega
  | idle => exact absurd hstate (hbusy hrun)

/-- Whatever is done to a new session in time, it gets on from every update over a link. -/
lemma watched_unstalled (moves : List (Nat × Move)) :
    Retrier.Watched (heeding t) (Unstalled t) moves {} {} 0 := by
  have hnew : Steady t {} {} 0 :=
    ⟨⟨⟨⟨Nat.le_refl _, nofun⟩, rfl, nofun⟩, nofun, nofun, fun hs => absurd rfl hs⟩, nofun,
      fresh_of_eq .idle rfl (by decide) _ _⟩
  have hkeep (s : Session) (o : Tally) (began time : Nat) (m : Move) (hs : s.Steady t o began)
      (ht : (heeding t s).Timely o time m) := perform_steady hmax hlimit hlimitMax hs ht
  exact Retrier.watched_of_keep hkeep
    (fun _ _ _ hs => hs.unstalled hbase hcap hmax hlimit hlimitMax) moves hnew

end

end Session

end DoorControl
