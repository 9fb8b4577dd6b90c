import DoorControl.Proofs.Link.Roles
import DoorControl.Proofs.Schedule

/-!
The link repeats a failed attempt on schedule, and starts no station at any other time.
-/

namespace DoorControl

open Program

/-- What a link state says of the attempts. -/
def LinkState.sign? : LinkState → Option Sign
  | .disconnected => some .failed
  | .connected => some .succeeded
  | _ => none

namespace Link

/-- An attempt is a station that is started; its failure and its success are reported. -/
def sign? : Hardware.Call → Option Sign
  | .startStation _ _ => some .asked
  | .post e => if e.kind = .linkChanged then (LinkState.ofCode? e.arg).bind LinkState.sign? else none
  | _ => none

def Operation.reading? : Operation → Option Clock
  | .enterSetup now | .start _ now | .update now => some now
  | .shutdown => none

/-- The link as something that attempts. Its failures come of their own. -/
def retrier (t : Timing) : Retrier Link Operation where
  perform := perform t
  sign := sign?
  reading? := Operation.reading?
  updates
    | .update _ => true
    | _ => false
  starts
    | .start _ _ => true
    | _ => false
  loses _ := false
  proper _ := True

/-- The time of the next attempt. -/
def due (t : Timing) (o : Tally) : Nat := o.due t.wifiBackoffBase t.wifiBackoffMax

/-- The operations that attempt: the start, and an update once the time of the retry is reached,
unless the link was shut down. -/
def Tries (s : Link) (due time : Nat) : Operation → Prop
  | .start _ _ => s.state = .uninitialized
  | .update _ => s.state = .disconnected ∧ s.stopped = false ∧ due ≤ time
  | _ => False

/-- A link that retries on schedule. -/
structure Punctual (t : Timing) (s : Link) (o : Tally) : Prop where
  /-- A link without its network has an attempt to come. -/
  waits : o.Waits ↔ s.state = .disconnected
  schedule : o.Waits → s.retryAt = .ofNat (due t o)
  attempt : ∀ time op, (retrier t).Timely o time op → s.Tries (due t o) time op →
    (s.perform t op).Ensures (Tally.surroundings sign?)
      (fun _ o' => o'.attempts = o.attempts + 1) ((retrier t).begin o time op)
  /-- No other operation attempts anything, and the attempt to come stays as it is. -/
  patience : ∀ time op, (retrier t).Timely o time op → ¬ s.Tries (due t o) time op →
    (s.perform t op).Ensures (Tally.surroundings sign?) (fun s' o' => o'.attempts = o.attempts ∧
      (o.Waits → s'.state = s.state ∧ o' = (retrier t).begin o time op))
      ((retrier t).begin o time op)

/-! ### Signs -/

variable {s : Link} {o : Tally} {t : Timing} {now : Clock}

/-- The link after a failure. -/
def failed (t : Timing) (s : Link) (now : Clock) : Link := { s with
  failures := countFailure s.failures
  retryAt := now + backoffDelay t.wifiBackoffBase t.wifiBackoffMax s.failures
  state := .disconnected }

lemma transition_tally {next : LinkState} (hn : next ≠ s.state) :
    (s.transition next now).Ensures (Tally.surroundings sign?)
      (fun s' o' => s' = { s with state := next } ∧ o' = next.sign?.elim o o.see) o := by
  unfold transition
  rw [if_neg hn]
  rintro queued _ rfl
  have hsign : sign? (.post { kind := .linkChanged, time := now, arg := next.code }) =
      next.sign? := by
    simp [sign?, LinkState.ofCode?_code]
  rw [hsign]
  cases queued with
  | true => exact ⟨rfl, rfl⟩
  | false =>
    rintro _ _ rfl
    exact ⟨rfl, rfl⟩

lemma fail_tally (hs : s.state ≠ .disconnected) (why : Failure) :
    (s.fail t now why).Ensures (Tally.surroundings sign?)
      (fun s' o' => s' = s.failed t now ∧ o' = o.see .failed) o := by
  rintro _ _ rfl _ _ rfl
  refine (transition_tally ?_).mono fun _ _ hs' => hs'
  exact hs.symm

lemma connect_tally (hs : s.state ≠ .connecting) :
    (s.connect t now).Ensures (Tally.surroundings sign?) (fun s' o' =>
      s' = { s with startedAt := now, state := .connecting } ∧ o' = o.see .asked ∨
      s' = { s with startedAt := now, state := .connecting }.failed t now ∧
        o' = (o.see .asked).see .failed) o := by
  refine (transition_tally (s := { s with startedAt := now }) ?_).bind ?_
  · exact hs.symm
  rintro _ _ ⟨rfl, rfl⟩ taken _ rfl
  cases taken with
  | true =>
    rintro _ _ rfl
    exact .inl ⟨rfl, rfl⟩
  | false =>
    refine (fail_tally ?_ .refused).mono fun _ _ hs' => .inr hs'
    exact (nofun : LinkState.connecting ≠ .disconnected)

/-! ### What the tally knows of a link -/

/-- The link counts as the tally does. -/
structure Reckons (t : Timing) (s : Link) (o : Tally) : Prop extends
    o.Paced t.wifiBackoffBase t.wifiBackoffMax s.failures s.retryAt where
  /-- No failure was counted before the start, nor since a success. -/
  fresh : s.state = .uninitialized ∨ s.state = .connected → o.streak = 0
  waits : o.Waits ↔ s.state = .disconnected
  steady : o.losing = false

/-- While an attempt is to come, no update was late for it. -/
def Prompt (t : Timing) (s : Link) (o : Tally) : Prop :=
  o.Waits → s.stopped = false → o.Prompt t.wifiBackoffBase t.wifiBackoffMax

/-- What becomes of a link and its tally in an operation. -/
structure Advances (t : Timing) (s : Link) (o : Tally) (time : Nat) (op : Operation) (s' : Link)
    (o' : Tally) : Prop where
  reckons : s'.Reckons t o'
  prompt : s'.Prompt t o'
  attempts : s.Tries (due t o) time op → o'.attempts = o.attempts + 1
  patience : ¬ s.Tries (due t o) time op → o'.attempts = o.attempts ∧
    (o.Waits → s'.state = s.state ∧ o' = (retrier t).begin o time op)

namespace Reckons

variable {s' : Link}

lemma asked (h : s.Reckons t o) (hs : s'.state = .connecting) (hf : s'.failures = s.failures)
    (hr : s'.retryAt = s.retryAt) : s'.Reckons t (o.see .asked) where
  toPaced := hf ▸ hr ▸ h.toPaced.asked
  fresh hfresh := by simp [hs] at hfresh
  waits := by simp [Tally.see_waits, hs]
  steady := h.steady

lemma succeeded (h : s.Reckons t o) :
    { s with failures := 0, state := .connected }.Reckons t (o.see .succeeded) where
  toPaced := h.toPaced.succeeded
  fresh _ := rfl
  waits := by simp [Tally.see_waits]
  steady := h.steady

lemma failed (h : s.Reckons t o) (hnow : now = .ofNat o.now) :
    (s.failed t now).Reckons t (o.see .failed) where
  toPaced := h.toPaced.failed h.steady hnow
  fresh hfresh := by simp [Link.failed] at hfresh
  waits := by simp [Tally.see_waits, Link.failed]
  steady := h.steady

lemma lost (h : s.Reckons t o) (hs : s.state = .connected) (hnow : now = .ofNat o.now)
    (hbase : t.wifiBackoffBase ≤ t.wifiBackoffMax) :
    { s with retryAt := now + t.wifiBackoffBase, failures := 1, state := .disconnected }.Reckons t
      (o.see .failed) where
  toPaced := by
    have hfirst := h.toPaced.lost (by simp [h.fresh (.inr hs)]) hnow
    rwa [backoffDelay_zero hbase] at hfirst
  fresh hfresh := by simp at hfresh
  waits := by simp [Tally.see_waits]
  steady := h.steady

end Reckons

/-- While nothing is to come, nothing can be late. -/
lemma prompt_of_not_waits (h : ¬ o.Waits) (s : Link) : s.Prompt t o := fun hw => absurd hw h

section

variable {time : Nat} {op : Operation}

lemma Reckons.begin (h : s.Reckons t o) (ht : (retrier t).Timely o time op) :
    s.Reckons t ((retrier t).begin o time op) where
  toPaced := ht.reckoned h.toPaced
  fresh := h.fresh
  waits := h.waits
  steady := rfl

lemma Advances.quiet (h : s.Reckons t o) (hp : s.Prompt t o) (ht : (retrier t).Timely o time op)
    (hop : ¬ s.Tries (due t o) time op) {s' : Link} (hs : s'.state = s.state)
    (hf : s'.failures = s.failures) (hr : s'.retryAt = s.retryAt)
    (hstopped : s'.stopped = false → s.stopped = false) :
    s.Advances t o time op s' ((retrier t).begin o time op) := by
  have hb := h.begin ht
  refine ⟨⟨hf ▸ hr ▸ hb.toPaced, hs ▸ hb.fresh, hs ▸ hb.waits, hb.steady⟩, fun hw hrun => ?_,
    fun htries => absurd htries hop, fun _ => ⟨rfl, fun _ => ⟨hs, rfl⟩⟩⟩
  refine Retrier.begin_prompt (hp hw (hstopped hrun)) fun hup => ?_
  cases op with
  | update now =>
    -- an update that tries nothing comes before the time
    by_contra hlate
    exact hop ⟨h.waits.1 hw, hstopped hrun, Nat.le_of_not_le hlate⟩
  | enterSetup now => cases hup
  | start c now => cases hup
  | shutdown => cases hup

lemma connect_advances (h : s.Reckons t o) (ht : (retrier t).Timely o time op)
    (hop : s.Tries (due t o) time op) (hpolled : ((retrier t).begin o time op).polled ≠ none)
    (hnow : now = .ofNat time) {s₀ : Link} (hs : s₀.state = s.state)
    (hconnecting : s.state ≠ .connecting) (hf : s₀.failures = s.failures)
    (hr : s₀.retryAt = s.retryAt) :
    (s₀.connect t now).Ensures (Tally.surroundings sign?) (s.Advances t o time op)
      ((retrier t).begin o time op) := by
  have hasked : Reckons t { s₀ with startedAt := now, state := .connecting }
      (((retrier t).begin o time op).see .asked) := (h.begin ht).asked rfl hf hr
  refine (connect_tally (hs ▸ hconnecting)).mono ?_
  rintro s' o' (⟨rfl, rfl⟩ | ⟨rfl, rfl⟩)
  · refine ⟨hasked, prompt_of_not_waits ?_ _, fun _ => rfl, fun hnot => absurd hop hnot⟩
    simp [Tally.see_waits]
  · exact ⟨hasked.failed hnow, fun _ _ => hasked.past.prompt hpolled _ _, fun _ => rfl,
      fun hnot => absurd hop hnot⟩

lemma fail_advances (h : s.Reckons t o) (ht : (retrier t).Timely o time op)
    (hop : ¬ s.Tries (due t o) time op) (hpolled : ((retrier t).begin o time op).polled ≠ none)
    (hnow : now = .ofNat time) (hs : s.state ≠ .disconnected) (why : Failure) :
    (s.fail t now why).Ensures (Tally.surroundings sign?) (s.Advances t o time op)
      ((retrier t).begin o time op) := by
  refine (fail_tally hs why).mono ?_
  rintro s' o' ⟨rfl, rfl⟩
  have hb := h.begin ht
  exact ⟨hb.failed hnow, fun _ _ => hb.past.prompt hpolled _ _, fun htries => absurd htries hop,
    fun _ => ⟨rfl, fun hw => absurd (h.waits.1 hw) hs⟩⟩

end

variable {time : Nat}

lemma update_advances (hbase : t.wifiBackoffBase ≤ t.wifiBackoffMax)
    (hcap : t.wifiBackoffMax < 0x80000000) (h : s.Reckons t o) (hp : s.Prompt t o)
    (ht : (retrier t).Timely o time (.update now)) :
    (s.update t now).Ensures (Tally.surroundings sign?) (s.Advances t o time (.update now))
      ((retrier t).begin o time (.update now)) := by
  have hnow : now = .ofNat time := ht.right now rfl
  have hpolled : ((retrier t).begin o time (.update now)).polled ≠ none := nofun
  have hquiet (hop : ¬ s.Tries (due t o) time (.update now)) :
      s.Advances t o time (.update now) s ((retrier t).begin o time (.update now)) :=
    .quiet h hp ht hop rfl rfl rfl id
  unfold update
  split
  · rename_i hrun
    exact hquiet fun hop => absurd (hrun.symm.trans hop.2.1) nofun
  rename_i hrun
  have hnot (hs : s.state ≠ .disconnected) : ¬ s.Tries (due t o) time (.update now) :=
    fun hop => hs hop.1
  cases hstate : s.state with
  | connecting =>
    have hs : s.state ≠ .disconnected := fun he => absurd (hstate.symm.trans he) nofun
    have hfail := fail_advances h ht (hnot hs) hpolled hnow hs
    rintro status _ rfl
    cases status with
    | up =>
      rintro _ _ rfl
      refine (transition_tally ?_).mono ?_
      · exact fun he => absurd (hstate.symm.trans he.symm) nofun
      rintro s' o' ⟨rfl, rfl⟩
      refine ⟨(h.begin ht).succeeded, prompt_of_not_waits ?_ _,
        fun htries => absurd htries (hnot hs), fun _ => ⟨rfl, fun hw => absurd (h.waits.1 hw) hs⟩⟩
      simp [LinkState.sign?, Tally.see_waits]
    | failed => exact hfail .association
    | down =>
      change (ite _ _ _ : Program Hardware Link).Ensures _ _ _
      split
      · exact hfail .timeout
      · exact hquiet (hnot hs)
  | connected =>
    have hs : s.state ≠ .disconnected := fun he => absurd (hstate.symm.trans he) nofun
    rintro status _ rfl
    change (ite _ _ _ : Program Hardware Link).Ensures _ _ _
    split
    · exact hquiet (hnot hs)
    rintro _ _ rfl _ _ rfl
    refine (transition_tally ?_).mono ?_
    · exact hs.symm
    rintro s' o' ⟨rfl, rfl⟩
    have hb := h.begin ht
    exact ⟨hb.lost hstate hnow hbase, fun _ _ => hb.past.prompt hpolled _ _,
      fun htries => absurd htries (hnot hs), fun _ => ⟨rfl, fun hw => absurd (h.waits.1 hw) hs⟩⟩
  | disconnected =>
    have hrun : s.stopped = false := by simpa using hrun
    have hw := h.waits.2 hstate
    have hreached : Clock.reached now s.retryAt = true ↔ due t o ≤ time := by
      rw [hnow, h.schedule hw]
      exact ht.reached_iff rfl h.past hcap (hp hw hrun)
    change (ite _ _ _ : Program Hardware Link).Ensures _ _ _
    split
    · rename_i hdue
      refine connect_advances h ht ?_ hpolled hnow rfl ?_ rfl rfl
      · exact ⟨hstate, hrun, hreached.1 hdue⟩
      · rw [hstate]
        nofun
    · rename_i hdue
      exact hquiet fun hop => hdue (hreached.2 hop.2.2)
  | uninitialized => exact hquiet (hnot (by rw [hstate]; nofun))
  | setupMode => exact hquiet (hnot (by rw [hstate]; nofun))

lemma enterSetup_advances (h : s.Reckons t o) (hp : s.Prompt t o)
    (ht : (retrier t).Timely o time (.enterSetup now)) :
    (s.enterSetup now).Ensures (Tally.surroundings sign?)
      (fun r => s.Advances t o time (.enterSetup now) r.2)
      ((retrier t).begin o time (.enterSetup now)) := by
  have hquiet : s.Advances t o time (.enterSetup now) s
      ((retrier t).begin o time (.enterSetup now)) := .quiet h hp ht id rfl rfl rfl id
  unfold enterSetup
  split
  · rintro _ _ rfl
    exact hquiet
  rename_i hstate
  rw [not_not] at hstate
  rintro opened _ rfl
  cases opened with
  | false =>
    rintro _ _ rfl
    exact hquiet
  | true =>
    have hnext : LinkState.setupMode ≠ s.state := by
      rw [hstate]
      nofun
    refine (transition_tally hnext).bind ?_
    rintro s' o' ⟨rfl, rfl⟩
    have hb := h.begin ht
    have hw : ¬ ((retrier t).begin o time (.enterSetup now)).Waits := fun hw =>
      absurd (hstate.symm.trans (hb.waits.1 hw)) nofun
    refine ⟨⟨hb.toPaced, ?_, ?_, hb.steady⟩,
      prompt_of_not_waits hw _, False.elim, fun _ => ⟨rfl, fun hw' => absurd hw' hw⟩⟩
    · rintro (he | he) <;> cases he
    · exact iff_of_false hw nofun

lemma start_advances (h : s.Reckons t o) (hp : s.Prompt t o) {c : Config}
    (ht : (retrier t).Timely o time (.start c now)) :
    (s.start t c now).Ensures (Tally.surroundings sign?)
      (fun r => s.Advances t o time (.start c now) r.2)
      ((retrier t).begin o time (.start c now)) := by
  unfold start
  split
  · rename_i hstate
    rintro _ _ rfl
    exact .quiet h hp ht hstate rfl rfl rfl id
  rename_i hstate
  rw [not_not] at hstate
  have hfresh : (0 : UInt8) = s.failures := by
    rw [h.failures, h.fresh (.inl hstate)]
    rfl
  refine Ensures.bind (connect_advances h ht hstate ?_ (ht.right now rfl) ?_ ?_ ?_ ?_)
    fun s' o' hs' => ?_
  · simp [Retrier.begin, retrier]
  · rfl
  · intro hwaiting
    cases hstate.symm.trans hwaiting
  · exact hfresh
  · rfl
  · exact hs'

lemma shutdown_advances (h : s.Reckons t o) (hp : s.Prompt t o)
    (ht : (retrier t).Timely o time .shutdown) :
    s.shutdown.Ensures (Tally.surroundings sign?) (s.Advances t o time .shutdown)
      ((retrier t).begin o time .shutdown) := by
  have hquiet (s' : Link) (hs : s'.state = s.state) (hf : s'.failures = s.failures)
      (hr : s'.retryAt = s.retryAt) (hstopped : s'.stopped = true) :
      s.Advances t o time .shutdown s' ((retrier t).begin o time .shutdown) :=
    .quiet h hp ht id hs hf hr fun hrun => absurd (hstopped.symm.trans hrun) nofun
  unfold shutdown
  split
  · exact hquiet s rfl rfl rfl ‹_›
  split
  · rintro _ _ rfl
    exact hquiet _ rfl rfl rfl rfl
  · exact hquiet _ rfl rfl rfl rfl

lemma perform_advances (hbase : t.wifiBackoffBase ≤ t.wifiBackoffMax)
    (hcap : t.wifiBackoffMax < 0x80000000) (h : s.Reckons t o) (hp : s.Prompt t o)
    {op : Operation} (ht : (retrier t).Timely o time op) :
    (s.perform t op).Ensures (Tally.surroundings sign?) (s.Advances t o time op)
      ((retrier t).begin o time op) := by
  cases op with
  | enterSetup now => exact (enterSetup_advances h hp ht).bind fun _ _ hs' => hs'
  | start c now => exact (start_advances h hp ht).bind fun _ _ hs' => hs'
  | update now => exact update_advances hbase hcap h hp ht
  | shutdown => exact shutdown_advances h hp ht

lemma Reckons.punctual (hbase : t.wifiBackoffBase ≤ t.wifiBackoffMax)
    (hcap : t.wifiBackoffMax < 0x80000000) (h : s.Reckons t o) (hp : s.Prompt t o) :
    s.Punctual t o where
  waits := h.waits
  schedule := h.schedule
  attempt _ _ ht hop := (perform_advances hbase hcap h hp ht).mono fun _ _ hs' => hs'.attempts hop
  patience _ _ ht hop := (perform_advances hbase hcap h hp ht).mono fun _ _ hs' => hs'.patience hop

/-- Whatever is done to a new link, as long as it is done in time, it retries on schedule. -/
lemma throughout_punctual (hbase : t.wifiBackoffBase ≤ t.wifiBackoffMax)
    (hcap : t.wifiBackoffMax < 0x80000000) (ops : List (Nat × Operation)) :
    (retrier t).Throughout (Punctual t) ops {} {} := by
  have hnew : Reckons t {} {} :=
    ⟨⟨⟨Nat.le_refl _, nofun⟩, rfl, nofun⟩, fun _ => rfl, ⟨nofun, nofun⟩, rfl⟩
  have hkeep (s : Link) (o : Tally) (time : Nat) (op : Operation)
      (hs : s.Reckons t o ∧ s.Prompt t o) (ht : (retrier t).Timely o time op) :=
    (perform_advances hbase hcap hs.1 hs.2 ht).mono fun _ _ hs' => And.intro hs'.reckons hs'.prompt
  exact Retrier.throughout_of_keep hkeep (fun s o hs => hs.1.punctual hbase hcap hs.2) ops
    ⟨hnew, prompt_of_not_waits (by simp [Tally.Waits]) _⟩

end Link

end DoorControl
