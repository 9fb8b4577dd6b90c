import DoorControl.Proofs.Link.Schedule
import DoorControl.Proofs.Progress

/-!
A link does not get stuck: after each update it is connected, or its attempt is young, or the time
of the next one is ahead.
-/

namespace DoorControl

open Program

namespace Link

/-- A station that was not shut down. -/
def Runs (s : Link) : Prop :=
  s.stopped = false ∧ s.state ≠ .uninitialized ∧ s.state ≠ .setupMode

instance (s : Link) : Decidable s.Runs := inferInstanceAs (Decidable (_ ∧ _ ∧ _))

/-- A link that gets on. Its last attempt was made at `began`. -/
def Moving (t : Timing) (s : Link) (o : Tally) (began : Nat) : Prop :=
  s.state = .connected ∨
  (s.state = .connecting ∧ began ≤ o.now ∧ o.now < began + t.wifiConnectTimeout.toNat) ∨
  (s.state = .disconnected ∧ s.retryAt = .ofNat (due t o) ∧
    o.Ahead t.wifiBackoffBase t.wifiBackoffMax)

instance (t : Timing) (s : Link) (o : Tally) (began : Nat) : Decidable (s.Moving t o began) :=
  inferInstanceAs (Decidable (_ ∨ _ ∨ _))

/-- After an update in time, a link that runs gets on. -/
def Unstalled (t : Timing) (s : Link) (o : Tally) (began : Nat) : Prop :=
  ∀ time now, (retrier t).Timely o time (.update now) → s.Runs →
    (s.update t now).Ensures (Tally.surroundings sign?)
      (fun s' o' => s'.Moving t o' (o'.attemptedAt o.attempts began))
      ((retrier t).begin o time (.update now))

variable {s : Link} {o : Tally} {t : Timing} {now : Clock} {time began : Nat}

/-! ### The age of an attempt -/

/-- An attempt in course was young in the last update. -/
def Fresh (t : Timing) (s : Link) (o : Tally) (began : Nat) : Prop :=
  s.state = .connecting → s.stopped = false → o.Young t.wifiConnectTimeout s.startedAt began

/-- What becomes of the age of an attempt in an operation. -/
abbrev Ages (t : Timing) (o : Tally) (began : Nat) (s' : Link) (o' : Tally) : Prop :=
  s'.Fresh t o' (o'.attemptedAt o.attempts began)

lemma fresh_of_ne (hs : s.state ≠ .connecting) (o : Tally) (began : Nat) : s.Fresh t o began :=
  fun he => absurd he hs

lemma Fresh.quiet (h : s.Fresh t o began) {op : Operation} (ht : (retrier t).Timely o time op)
    (hop : (retrier t).updates op = true → s.state = .connecting → s.stopped = false →
      time < began + t.wifiConnectTimeout.toNat) :
    s.Ages t o began ((retrier t).begin o time op) := by
  intro hs hrun
  rw [Retrier.begin_attemptedAt]
  exact ht.young (h hs hrun) fun hup => hop hup hs hrun

lemma connect_ages (hlimit : 1 ≤ t.wifiConnectTimeout) (hpast : o.Past) (hpolled : o.polled ≠ none)
    (hnow : now = .ofNat o.now) (hs : s.state ≠ .connecting) (began : Nat) :
    (s.connect t now).Ensures (Tally.surroundings sign?)
      (fun s' o' => s'.Ages t o began o' ∧ (s.stopped = false → s'.Runs)) o := by
  refine (connect_tally hs).mono ?_
  rintro s' o' (⟨rfl, rfl⟩ | ⟨rfl, rfl⟩)
  · refine ⟨fun _ _ => ?_, fun hrun => ⟨hrun, nofun, nofun⟩⟩
    rw [hnow, Tally.attemptedAt_asked]
    exact Tally.Young.new (hpast.see .asked) hpolled hlimit
  · exact ⟨fresh_of_ne (by nofun) _ _, fun hrun => ⟨hrun, nofun, nofun⟩⟩

lemma fail_ages (hs : s.state ≠ .disconnected) (why : Failure) {o₀ : Tally} :
    (s.fail t now why).Ensures (Tally.surroundings sign?)
      (fun s' o' => s'.Ages t o₀ began o' ∧ (s.Runs → s'.Runs)) o := by
  refine (fail_tally hs why).mono ?_
  rintro s' o' ⟨rfl, -⟩
  exact ⟨fresh_of_ne (by nofun) _ _, fun hrun => ⟨hrun.1, nofun, nofun⟩⟩

lemma update_ages (hlimit : 1 ≤ t.wifiConnectTimeout) (hmax : t.wifiConnectTimeout < 0x80000000)
    (h : s.Fresh t o began) (hpast : o.Past) (ht : (retrier t).Timely o time (.update now)) :
    (s.update t now).Ensures (Tally.surroundings sign?)
      (fun s' o' => s'.Ages t o began o' ∧ (s.Runs → s'.Runs))
      ((retrier t).begin o time (.update now)) := by
  have hnow : now = .ofNat time := ht.right now rfl
  have hquiet (hs : s.state ≠ .connecting) :
      s.Ages t o began ((retrier t).begin o time (.update now)) ∧ (s.Runs → s.Runs) :=
    ⟨fresh_of_ne hs _ _, id⟩
  unfold update
  split
  · rename_i hstopped
    exact ⟨fun _ hrun => absurd (hstopped.symm.trans hrun) nofun, id⟩
  rename_i hrun
  rw [Bool.not_eq_true] at hrun
  cases hstate : s.state with
  | connecting =>
    have hs : s.state ≠ .disconnected := fun he => absurd (hstate.symm.trans he) nofun
    rintro status _ rfl
    cases status with
    | up =>
      rintro _ _ rfl
      refine (transition_tally ?_).mono ?_
      · exact fun he => absurd (hstate.symm.trans he.symm) nofun
      rintro s' o' ⟨rfl, -⟩
      exact ⟨fresh_of_ne (by nofun) _ _, fun hruns => ⟨hruns.1, nofun, nofun⟩⟩
    | failed => exact fail_ages hs .association
    | down =>
      change (ite _ _ _ : Program Hardware Link).Ensures _ _ _
      split
      · exact fail_ages hs .timeout
      · rename_i hyoung
        rw [hnow, ht.expired_iff rfl (h hstate hrun) hmax] at hyoung
        exact ⟨h.quiet ht fun _ _ _ => Nat.lt_of_not_le hyoung, id⟩
  | connected =>
    have hs : s.state ≠ .disconnected := fun he => absurd (hstate.symm.trans he) nofun
    rintro status _ rfl
    change (ite _ _ _ : Program Hardware Link).Ensures _ _ _
    split
    · exact hquiet (by rw [hstate]; nofun)
    rintro _ _ rfl _ _ rfl
    refine (transition_tally ?_).mono ?_
    · exact hs.symm
    rintro s' o' ⟨rfl, -⟩
    exact ⟨fresh_of_ne (by nofun) _ _, fun hruns => ⟨hruns.1, nofun, nofun⟩⟩
  | disconnected =>
    have hs : s.state ≠ .connecting := fun he => absurd (hstate.symm.trans he) nofun
    change (ite _ _ _ : Program Hardware Link).Ensures _ _ _
    split
    · exact (connect_ages hlimit (ht.past hpast) nofun hnow hs began).mono
        fun s' o' hs' => ⟨hs'.1, fun hruns => hs'.2 hruns.1⟩
    · exact hquiet hs
  | uninitialized => exact hquiet (by rw [hstate]; nofun)
  | setupMode => exact hquiet (by rw [hstate]; nofun)

lemma enterSetup_ages (h : s.Fresh t o began) (ht : (retrier t).Timely o time (.enterSetup now)) :
    (s.enterSetup now).Ensures (Tally.surroundings sign?) (fun r o' => r.2.Ages t o began o')
      ((retrier t).begin o time (.enterSetup now)) := by
  have hquiet : s.Ages t o began ((retrier t).begin o time (.enterSetup now)) := h.quiet ht nofun
  unfold enterSetup
  split
  · rintro _ _ rfl
    exact hquiet
  rename_i hstate
  rw [not_not] at hstate
  rintro opened _ rfl
  cases opened with
  | false =>
    rintro _ _ rfl
    exact hquiet
  | true =>
    refine (transition_tally ?_).bind ?_
    · rw [hstate]
      nofun
    rintro s' o' ⟨rfl, -⟩
    exact fresh_of_ne (by nofun) _ _

lemma start_ages (hlimit : 1 ≤ t.wifiConnectTimeout) (h : s.Fresh t o began) (hpast : o.Past)
    {c : Config} (ht : (retrier t).Timely o time (.start c now)) :
    (s.start t c now).Ensures (Tally.surroundings sign?) (fun r o' => r.2.Ages t o began o')
      ((retrier t).begin o time (.start c now)) := by
  unfold start
  split
  · rintro _ _ rfl
    exact h.quiet ht nofun
  rename_i hstate
  rw [not_not] at hstate
  refine Ensures.bind (connect_ages hlimit (ht.past hpast) ?_ (ht.right now rfl) ?_ began)
    fun s' o' hs' => hs'.1
  · simp [Retrier.begin, retrier]
  · exact ne_of_eq_of_ne hstate (by decide)

lemma perform_ages (hlimit : 1 ≤ t.wifiConnectTimeout) (hmax : t.wifiConnectTimeout < 0x80000000)
    (h : s.Fresh t o began) (hpast : o.Past) {op : Operation}
    (ht : (retrier t).Timely o time op) :
    (s.perform t op).Ensures (Tally.surroundings sign?) (fun s' o' => s'.Ages t o began o')
      ((retrier t).begin o time op) := by
  cases op with
  | enterSetup now => exact (enterSetup_ages h ht).bind fun _ _ hs' => hs'
  | start c now => exact (start_ages hlimit h hpast ht).bind fun _ _ hs' => hs'
  | update now => exact (update_ages hlimit hmax h hpast ht).mono fun _ _ hs' => hs'.1
  | shutdown =>
    -- what was shut down is out of reach of its timeout
    refine (Gives.anyhow (perform_stopped t .shutdown (.inl rfl)) _).mono fun s' o' hs' _ hrun => ?_
    exact absurd (hs'.symm.trans hrun) nofun

/-! ### Progress -/

/-- What is kept of a link that retries on schedule and times its attempts. -/
structure Steady (t : Timing) (s : Link) (o : Tally) (began : Nat) : Prop where
  reckons : s.Reckons t o
  prompt : s.Prompt t o
  fresh : s.Fresh t o began

section

variable (hbase : 1 ≤ t.wifiBackoffBase) (hcap : t.wifiBackoffBase ≤ t.wifiBackoffMax)
  (hmax : t.wifiBackoffMax < 0x80000000) (hlimit : 1 ≤ t.wifiConnectTimeout)
  (hlimitMax : t.wifiConnectTimeout < 0x80000000)
include hcap hmax hlimit hlimitMax

lemma perform_steady (h : s.Steady t o began) {op : Operation}
    (ht : (retrier t).Timely o time op) :
    (s.perform t op).Ensures (Tally.surroundings sign?)
      (fun s' o' => s'.Steady t o' (o'.attemptedAt o.attempts began))
      ((retrier t).begin o time op) := by
  refine ((perform_advances hcap hmax h.reckons h.prompt ht).and
    (perform_ages hlimit hlimitMax h.fresh h.reckons.past ht)).mono ?_
  exact fun s' o' hs' => ⟨hs'.1.reckons, hs'.1.prompt, hs'.2⟩

include hbase

lemma Steady.unstalled (h : s.Steady t o began) : s.Unstalled t o began := by
  intro time now ht hruns
  refine (((update_advances hcap hmax h.reckons h.prompt ht).and
    (update_ages hlimit hlimitMax h.fresh h.reckons.past ht)).and
    (Tally.ensures_within _ (.refl _))).mono ?_
  rintro s' o' ⟨⟨hadvances, hfresh, hkeeps⟩, hwithin⟩
  obtain ⟨hrun, hstarted, hstation⟩ := hkeeps hruns
  cases hstate : s'.state with
  | connected => exact .inl hstate
  | connecting =>
    exact .inr (.inl ⟨hstate, Retrier.young_of_within rfl hwithin (hfresh hstate hrun)⟩)
  | disconnected =>
    have hwaits := hadvances.reckons.waits.2 hstate
    refine .inr (.inr ⟨hstate, hadvances.reckons.schedule hwaits, ?_⟩)
    refine Retrier.ahead_of_waits hbase hcap hmax hwithin hadvances.reckons.past hwaits
      fun hwaited hattempts => ?_
    -- once the time had come, the update would have made an attempt
    by_contra hlate
    have hasked := hadvances.attempts
      ⟨h.reckons.waits.1 hwaited, hruns.1, Nat.le_of_not_lt hlate⟩
    omega
  | uninitialized => exact absurd hstate hstarted
  | setupMode => exact absurd hstate hstation

/-- Whatever is done to a new link in time, it gets on from every update. -/
lemma watched_unstalled (ops : List (Nat × Operation)) :
    Retrier.Watched (fun _ => retrier t) (Unstalled t) ops {} {} 0 := by
  have hnew : Steady t {} {} 0 :=
    ⟨⟨⟨⟨Nat.le_refl _, nofun⟩, rfl, nofun⟩, fun _ => rfl, ⟨nofun, nofun⟩, rfl⟩, nofun, nofun⟩
  have hkeep (s : Link) (o : Tally) (began time : Nat) (op : Operation)
      (hs : s.Steady t o began) (ht : (retrier t).Timely o time op) :=
    perform_steady hcap hmax hlimit hlimitMax hs ht
  exact Retrier.watched_of_keep hkeep
    (fun _ _ _ hs => hs.unstalled hbase hcap hmax hlimit hlimitMax) ops hnew

end

end Link

end DoorControl
