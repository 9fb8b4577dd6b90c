import DoorControl.Proofs.Board.Alarm

/-!
What the ledger of the request queue says of the present attempt of a session, and how the attempt
ends: by an alarm that the session is handed, and not before the next connect does another one begin.
-/

namespace DoorControl

open Bytes Program

/-! ### The numbers in a ledger -/

namespace Ledger

/-- A request comes no earlier than another one, and later if it begins an attempt. -/
structure After (x y : Issue) : Prop where
  le : y.attempt ≤ x.attempt
  lt : ∀ c, x.request = .connect c → y.attempt < x.attempt

/-- The requests of later attempts were sent later, and each attempt has one connect at most. -/
structure Numbered (v : Ledger) : Prop where
  bounded : ∀ x ∈ v.sent, x.attempt ≤ v.attempts
  sorted : v.sent.Pairwise After

variable {v v' : Ledger}

lemma attempts_le_next (n : Nat) (r : Request) : n ≤ (Issue.next n r).attempt := by
  cases r <;> simp [Issue.next]

lemma Numbered.send (hv : v.Numbered) (r : Request) (taken : Bool) : (v.send r taken).Numbered := by
  have hbounded (x : Issue) (hx : x ∈ v.sent) : x.attempt ≤ (Issue.next v.attempts r).attempt :=
    Nat.le_trans (hv.bounded x hx) (attempts_le_next v.attempts r)
  have hafter (x : Issue) (hx : x ∈ v.sent) : After (Issue.next v.attempts r) x := by
    refine ⟨hbounded x hx, fun c hc => ?_⟩
    obtain rfl : r = .connect c := hc
    exact Nat.lt_succ_of_le (hv.bounded x hx)
  cases taken with
  | true =>
    exact ⟨List.forall_mem_cons.2 ⟨Nat.le_refl _, hbounded⟩,
      List.pairwise_cons.2 ⟨hafter, hv.sorted⟩⟩
  | false => exact ⟨hbounded, hv.sorted⟩

lemma Numbered.may (hv : v.Numbered) {c : Board.Call} {r : Board.Answer c}
    (h : surroundings.may c v r v') : v'.Numbered ∧ v.attempts ≤ v'.attempts := by
  by_cases hc : Unsent c
  · obtain rfl := eq_of_unsent hc h
    exact ⟨hv, Nat.le_refl _⟩
  · cases c with
    | sendRequest q =>
      obtain rfl := h
      exact ⟨hv.send q r, attempts_le_next _ _⟩
    | _ => exact absurd trivial hc

end Ledger

/-! ### What a session has sent -/

namespace Chronicle

variable {h : Chronicle}

lemma mem_sent_request {r : Request} {taken : Bool} {x : Issue} :
    x ∈ sent (.made ⟨.request r, taken⟩ :: h) ↔
      (taken = true ∧ ∃ q, Transport.queued? r = some q ∧
        ⟨number (.made ⟨.request r, taken⟩ :: h), q⟩ = x) ∨ x ∈ sent h := by
  cases taken <;> simp [sent, Mark.accepted?, Mark.request?]

lemma number_le_cons (m : Mark) (h : Chronicle) : number h ≤ number (m :: h) :=
  (List.sublist_cons_self m h).countP_le

lemma attempt_le_number {x : Issue} (hx : x ∈ sent h) : x.attempt ≤ number h := by
  induction h with
  | nil => cases hx
  | cons m h ih =>
    cases hm : m.request? with
    | none =>
      rw [sent_cons_of_none hm] at hx
      rw [number_cons_of_none hm]
      exact ih hx
    | some y =>
      obtain ⟨r, taken⟩ := y
      obtain rfl := Mark.request?_eq_some hm
      rcases mem_sent_request.1 hx with ⟨-, q, -, rfl⟩ | hx
      · exact Nat.le_refl _
      · exact Nat.le_trans (ih hx) (number_le_cons _ h)

/-- What was sent in the present attempt is what was taken in it, as it travels. -/
lemma mem_sent_number {q : Request} :
    ⟨number h, q⟩ ∈ sent h ↔ ∃ r ∈ accepted h, Transport.queued? r = some q := by
  induction h with
  | nil => simp [sent, accepted, attempt]
  | cons m h ih =>
    cases hm : m.request? with
    | none => rw [number_cons_of_none hm, sent_cons_of_none hm, accepted_cons_of_none hm, ih]
    | some y =>
      obtain ⟨r, taken⟩ := y
      obtain rfl := Mark.request?_eq_some hm
      rw [mem_sent_request]
      by_cases hr : ∃ c, r = .connect c
      · obtain ⟨c, rfl⟩ := hr
        have hnew : ⟨number (.made ⟨.request (.connect c), taken⟩ :: h), q⟩ ∉ sent h := by
          intro hx
          have hle := attempt_le_number hx
          rw [number_cons_connect] at hle
          exact absurd hle (Nat.not_succ_le_self _)
        rw [accepted_cons_connect]
        cases taken <;> simp [hnew, eq_comm]
      · have hne : ∀ c, r ≠ .connect c := fun c he => hr ⟨c, he⟩
        rw [accepted_cons_request taken hne, number_cons_request hne, ih]
        cases taken <;> simp [or_and_right, exists_or, or_comm]

end Chronicle

open Chronicle

namespace Session

/-- No attempt is going on. -/
def Down (s : Session) : Prop := s.state.active = false ∨ s.stopped = true

variable {s : Session} {h : Chronicle} {v : Ledger} (t : Timing) (now : Clock)

lemma transition_down {next : SessionState} (hn : next.active = false) :
    (s.transition next now).Ensures Chronicle.surroundings (fun s' _ => s'.Down) h := by
  refine ((transition_silent now next).ensures (K := fun _ => True) (by simp) trivial).mono ?_
  rintro _ _ ⟨rfl, -⟩
  exact .inl hn

lemma fail_down (why : Failure) :
    (s.fail t now why).Ensures Chronicle.surroundings (fun s' _ => s'.Down) h := by
  refine (ensures_true _ _).bind ?_
  rintro _ h - _ _ rfl
  exact transition_down now rfl

lemma lose_down : (s.lose t now).Ensures Chronicle.surroundings (fun s' _ => s'.Down) h := by
  rintro _ _ rfl
  exact transition_down now rfl

/-- An alarm of the present attempt ends it. -/
lemma handle_down (hs : s.InOrder h) {e : Event} (he : e.Alarms s.generation)
    (ha : s.Down ∨ s.state.announced = true) :
    (s.handle t e now).Ensures Chronicle.surroundings (fun s' _ => s'.Down) h := by
  obtain ⟨harg, hkind⟩ := he
  unfold handle
  split
  · rename_i hoff
    simp only [Bool.or_eq_true, Bool.not_eq_true'] at hoff
    refine hoff.imp (fun hc => ?_) id
    rw [hs.idle hc]
    rfl
  rw [if_neg (not_not.2 harg)]
  rcases hkind with hk | hk
  · simp only [hk]
    split
    · exact lose_down t now
    · rename_i hstate
      exact .inl (by simpa using hstate)
  · simp only [hk]
    split
    · exact fail_down t now _
    · rename_i hstate
      exact ha.resolve_right hstate

/-- The attempts of a session up to a number are over. -/
def Over (n : Nat) (s : Session) (attempts : Nat) : Prop := n < attempts ∨ s.Down

lemma number_ensures {α : Type} (p : Program Hardware α) {n : Nat} (hn : n < number h) :
    p.Ensures Chronicle.surroundings (fun _ h' => n < number h') h := by
  induction p generalizing h with
  | done a => exact hn
  | call c next ih =>
    rintro r _ rfl
    exact ih r (Nat.lt_of_lt_of_le hn (number_le_cons _ h))

/-- A connect is a new attempt. -/
lemma connect_over : (s.connect t now).Ensures Chronicle.surroundings
    (fun s' h' => Over (number h) s' (number h')) h := by
  have hsilent {h' : Chronicle} (c : Hardware.Call) (r : Hardware.Answer c) (hc : Silent c) :
      number (.made ⟨c, r⟩ :: h') = number h' := number_cons_of_none (request?_of_silent hc r)
  refine ((transition_silent now _).ensures (K := fun h' => number h' = number h) ?_ rfl).bind ?_
  · rintro c h' r _ hc rfl hn
    rw [hsilent c r hc, hn]
  rintro _ h' ⟨rfl, hn⟩ taken _ rfl
  refine (number_ensures _ ?_).mono fun s' h' hlt => .inl hlt
  rw [number_cons_connect, hn]
  exact Nat.lt_succ_self _

lemma idle_of_down (hd : s.Down) (hon : ¬(!s.configured || s.stopped) = true) :
    s.state = .idle ∨ s.state = .backoff := by
  have hactive : s.state.active = false := hd.resolve_right (by simp_all)
  cases hs : s.state with
  | idle => exact .inl rfl
  | backoff => exact .inr rfl
  | _ => simp [hs, SessionState.active] at hactive

lemma update_over (hd : s.Down) (linkUp : Bool) : (s.update t linkUp now).Ensures
    Chronicle.surroundings (fun s' h' => Over (number h) s' (number h')) h := by
  unfold update
  split
  · exact .inr hd
  rename_i hon
  split
  · split
    · exact .inr hd
    refine (ensures_true _ _).bind fun _ h' _ => ?_
    exact (transition_down now rfl).mono fun s' h' hd => .inr hd
  rcases idle_of_down hd hon with hs | hs
  · simp only [hs]
    exact connect_over t now
  · simp only [hs]
    split
    · exact connect_over t now
    · exact .inr hd

lemma handle_unheard (hd : s.Down) (e : Event) : s.handle t e now = pure s := by
  unfold handle
  split
  · rfl
  rename_i hon
  split
  · rfl
  rcases idle_of_down hd hon with hs | hs
  · cases e.kind <;> simp [hs, SessionState.announced, SessionState.active]
  · cases e.kind <;> simp [hs, SessionState.announced, SessionState.active]

lemma publish_over (hd : s.Down) (l : LockState) (d : DoorState) : (s.publish l d).Ensures
    Chronicle.surroundings (fun s' h' => Over (number h) s' (number h')) h := by
  unfold publish
  dsimp only
  split
  · rename_i hon
    simp only [Bool.and_eq_true, decide_eq_true_eq, Bool.not_eq_true'] at hon
    simp [Down, hon, SessionState.active] at hd
  · exact .inr hd

lemma shutdown_over (hd : s.Down) : (s.shutdown t).Ensures
    Chronicle.surroundings (fun s' h' => Over (number h) s' (number h')) h := by
  unfold shutdown
  split
  · exact .inr hd
  refine (ensures_true _ _).bind fun _ h' _ => ?_
  split
  · rintro done _ rfl
    cases done with
    | true => exact .inr (.inr rfl)
    | false =>
      rintro _ _ rfl
      exact .inr (.inr rfl)
  · exact .inr (.inr rfl)

/-- After the end of an attempt there is none until the next one. -/
lemma perform_over (hd : s.Down) (op : Operation) : (s.perform t op).Ensures
    Chronicle.surroundings (fun s' h' => Over (number h) s' (number h')) h := by
  cases op with
  | update linkUp now => exact update_over t now hd linkUp
  | handle e now =>
    change (s.handle t e now).Ensures _ _ _
    rw [handle_unheard t now hd e]
    exact .inr hd
  | publish l d => exact publish_over hd l d
  | shutdown => exact shutdown_over t hd

/-! ### A session and its ledger -/

/-- What a session does without an attempt leads to no more of the same attempt. -/
lemma Entered.perform_over (hs : s.Entered v) (hd : s.Down) (opened : Bool) (op : Operation) :
    ((s.perform t op).lower (Driver.lower opened)).Ensures Ledger.surroundings
      (fun s' v' => Over v.attempts s' v'.attempts) v := by
  obtain ⟨h, -, rfl⟩ := hs
  have hrefl : ledger h = ledger h := rfl
  refine (Ensures.lower (Driver.lower_enters opened) (Session.perform_over t hd op) hrefl).mono ?_
  rintro s' _ ⟨h', hover, rfl⟩
  exact hover

/-- A request that needs a connection is made only by an announced session. -/
lemma Entered.announced (hs : s.Entered v) {q : Request} (hq : ⟨v.attempts, q⟩ ∈ v.sent)
    (he : q.errand?.isSome) : s.Down ∨ s.state.announced = true := by
  obtain ⟨h, hs, rfl⟩ := hs
  by_cases hstopped : s.stopped = true
  · exact .inl (.inr hstopped)
  cases hstate : s.state with
  | connecting =>
    have hc : s.configured = true := by
      by_contra hf
      simp [hs.idle (by simpa using hf)] at hstate
    have hstage := (hs.running hc (by simpa using hstopped)).stage
    obtain ⟨r, hr, hq⟩ := mem_sent_number.1 hq
    rw [hstate] at hstage
    rw [show accepted h = _ from hstage, List.mem_singleton] at hr
    obtain rfl := hr
    obtain rfl := Option.some.inj hq
    cases he
  | connected => exact .inr rfl
  | subscribed => exact .inr rfl
  | _ => exact .inl (.inl (by rw [hstate]; rfl))

/-- An announced session has asked for its commands and has not taken leave. -/
lemma Entered.listening (hs : s.Entered v) (hstopped : s.stopped = false)
    (ha : s.state.announced = true) : s.generation = .ofNat v.attempts ∧
      (∃ topic, ⟨v.attempts, .subscribe s.generation topic⟩ ∈ v.sent) ∧
      ∀ g, ⟨v.attempts, .disconnect g⟩ ∉ v.sent := by
  obtain ⟨h, hs, rfl⟩ := hs
  have hc : s.configured = true := by
    by_contra hf
    simp [hs.idle (by simpa using hf), SessionState.announced] at ha
  obtain ⟨reports, hsaid⟩ : ∃ reports, accepted h = s.wording.opening s.generation reports := by
    have hstage := (hs.running hc hstopped).stage
    cases hstate : s.state with
    | connected => exact ⟨[], (hstate ▸ hstage).1⟩
    | subscribed => exact (hstate ▸ hstage).1
    | _ => simp [hstate, SessionState.announced] at ha
  refine ⟨hs.generation.symm, ⟨_, mem_sent_number.2
    ⟨.subscribe s.generation s.topics.command, ?_, rfl⟩⟩, ?_⟩
  · rw [hsaid]
    simp [Wording.opening, Wording.announcement, wording]
  · intro g hg
    obtain ⟨r, hr, hq⟩ := mem_sent_number.1 hg
    obtain rfl := ((Transport.queued?_kind hq).2.2 g).1 rfl
    rw [hsaid] at hr
    simp [Wording.opening, Wording.connect, Wording.announcement, Wording.report] at hr

lemma Entered.handle_down (hs : s.Entered v) {e : Event} (he : e.Alarms (.ofNat v.attempts))
    (ha : s.Down ∨ s.state.announced = true) (opened : Bool) :
    ((s.perform t (.handle e now)).lower (Driver.lower opened)).Ensures Ledger.surroundings
      (fun s' _ => s'.Down) v := by
  obtain ⟨h, hs, rfl⟩ := hs
  have hg : s.generation = .ofNat (ledger h).attempts := hs.generation.symm
  have hdown := Session.handle_down t now hs (hg ▸ he) ha
  have hrefl : ledger h = ledger h := rfl
  refine (Ensures.lower (Driver.lower_enters opened) hdown hrefl).mono ?_
  rintro s' _ ⟨h', hd, rfl⟩
  exact hd

end Session

end DoorControl
