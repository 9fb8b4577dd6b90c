import DoorControl.Proofs.Session.Journal

/-!
What the broker is told of the state of the device. A publish that the transport refuses stays to be
done, and each new connection starts with one.
-/

namespace DoorControl

open Bytes Program

/-- No topic is mistaken for the one of the state. -/
structure Topics.Distinct (t : Topics) : Prop where
  discovery : t.discovery ≠ t.state
  availability : t.availability ≠ t.state

/-- Topics that all fit are named in full. -/
lemma Topics.build_eq {t : Topics} {id : Bytes} (h : (t.build id).1 = true) :
    (t.build id).2 = ⟨discoveryOf id, stateOf id, availabilityOf id, commandOf id⟩ := by
  have hid : id ≠ [] := by
    rintro rfl
    simp [build] at h
  unfold build at h ⊢
  simp only [hid, if_false] at h ⊢
  cases hd : fits room (discoveryOf id)
  · simp [hd] at h
  cases hs : fits room (stateOf id)
  · simp [hd, hs] at h
  cases ha : fits room (availabilityOf id)
  · simp [hd, hs, ha] at h
  have hc : fits room (commandOf id) = true := by simpa [hd, hs, ha] using h
  simp [clip_eq_self hd, clip_eq_self hs, clip_eq_self ha, clip_eq_self hc]

lemma Topics.build_distinct {t : Topics} {id : Bytes} (h : (t.build id).1 = true) :
    (t.build id).2.Distinct := by
  rw [build_eq h]
  constructor
  · intro he
    have hl := congrArg List.length he
    simp [discoveryOf, stateOf, ascii] at hl
    omega
  · intro he
    have hl := congrArg List.length he
    simp [availabilityOf, stateOf, ascii] at hl

lemma Topics.build_apart {t : Topics} {id : Bytes} (h : (t.build id).1 = true) :
    (t.build id).2.discovery ≠ (t.build id).2.availability := by
  rw [build_eq h]
  intro he
  have hl := congrArg List.length he
  simp [discoveryOf, availabilityOf, ascii] at hl

namespace Journal

/-- A session is in step with its journal. -/
structure Tracks (configured : Bool) (topics : Topics) (state : SessionState) (l : LockState)
    (d : DoorState) (dirty : Bool) (j : Journal) : Prop where
  distinct : configured = true → topics.Distinct
  idle : configured = false → state = .idle
  recorded : recorded j = (l, d)
  told : told j = state.code
  faithful : Faithful topics.state j
  published : state = .subscribed → dirty = false →
    published topics.state j = some (Document.state l d)

variable {configured dirty : Bool} {topics : Topics} {state : SessionState} {l : LockState}
  {d : DoorState} {j : Journal}

namespace Tracks

lemma neutral (h : Tracks configured topics state l d dirty j) {c : Hardware.Call}
    (r : Hardware.Answer c) (hc : Neutral topics.state c) :
    Tracks configured topics state l d dirty (.made ⟨c, r⟩ :: j) where
  distinct := h.distinct
  idle := h.idle
  recorded := h.recorded
  told := by rw [told_neutral r j hc, h.told]
  faithful := ⟨by simp [published?_neutral r hc], h.faithful⟩
  published hs hd := by rw [published_neutral r j hc, h.published hs hd]

lemma ensures (h : Tracks configured topics state l d dirty j) {α : Type}
    {p : Program Hardware α} {post : α → Prop} (hp : p.Confined (Neutral topics.state) post) :
    p.Ensures surroundings (fun a j' => post a ∧ Tracks configured topics state l d dirty j') j := by
  refine hp.ensures ?_ h
  rintro c j r _ hc rfl h
  exact h.neutral r hc

lemma note (h : Tracks configured topics state l d dirty j) (l' : LockState) (d' : DoorState) :
    Tracks configured topics state l' d' true (.recorded l' d' :: j) where
  distinct := h.distinct
  idle := h.idle
  recorded := rfl
  told := h.told
  faithful := ⟨by simp [published?], h.faithful⟩
  published _ hd := by cases hd

lemma report (h : Tracks configured topics state l d dirty j) (hc : configured = true)
    {next : SessionState} {dirty' : Bool} (hn : next = .subscribed → dirty' = true) {e : Event}
    (hk : e.kind = .sessionChanged) (he : e.arg = next.code) (ok : Bool) :
    Tracks configured topics next l d dirty' (.made ⟨.post e, ok⟩ :: j) where
  distinct := h.distinct
  idle hf := by rw [hc] at hf; cases hf
  recorded := h.recorded
  told := by rw [Journal.told, List.findSome?_cons, told?, if_pos hk, he]; rfl
  faithful := ⟨by simp [published?], h.faithful⟩
  published hs hd := by rw [hn hs] at hd; cases hd

lemma attempt (h : Tracks configured topics state l d dirty j) (hs : state ≠ .subscribed)
    (c : ConnectRequest) (ok : Bool) :
    Tracks configured topics state l d dirty (.made ⟨.request (.connect c), ok⟩ :: j) where
  distinct := h.distinct
  idle := h.idle
  recorded := h.recorded
  told := h.told
  faithful := ⟨by simp [published?], h.faithful⟩
  published hs' := absurd hs' hs

/-- The state is published, and need not be again if the transport takes it. -/
lemma publish (h : Tracks configured topics .subscribed l d dirty j) (g : UInt8) (retained : Bool)
    (ok : Bool) : Tracks configured topics .subscribed l d (if ok then false else dirty)
      (.made ⟨.request (.publish g topics.state (Document.state l d) retained), ok⟩ :: j) where
  distinct := h.distinct
  idle := h.idle
  recorded := h.recorded
  told := h.told
  faithful := by
    refine ⟨fun payload hp => ?_, h.faithful⟩
    simp only [published?, Option.mem_def, Option.ite_none_right_eq_some, Option.some.injEq] at hp
    rw [h.recorded]
    exact ⟨hp.2.symm, h.told⟩
  published _ hd := by
    cases ok with
    | true => simp [Journal.published, published?, attempts]
    | false => simpa [Journal.published, published?, attempts] using h.published rfl hd

end Tracks

end Journal

namespace Session

open Journal

/-- The session is in step with a journal. -/
def InStep (s : Session) (j : Journal) : Prop :=
  Tracks s.configured s.topics s.state s.lock s.door s.dirty j

variable {s : Session} {j : Journal} (t : Timing) (now : Clock)

lemma transition_inStep (dirty : Bool) (h : s.InStep j) (hc : s.configured = true)
    {next : SessionState} (hn : next = .subscribed → dirty = true) :
    (s.transition next now).Ensures surroundings (fun s' j' => s' = { s with state := next } ∧
      Tracks s.configured s.topics next s.lock s.door dirty j') j := by
  unfold transition
  split
  · rename_i he
    subst he
    refine ⟨rfl, h.distinct, h.idle, h.recorded, h.told, h.faithful, fun hs hd => ?_⟩
    rw [hn hs] at hd
    cases hd
  · rintro ok _ rfl
    have h := Tracks.report h hc hn (e := { kind := .sessionChanged, time := now, arg := next.code })
      rfl rfl ok
    cases ok with
    | true => exact ⟨rfl, h⟩
    | false =>
      rintro _ _ rfl
      exact ⟨rfl, h.neutral _ trivial⟩

lemma teardown_neutral (h : s.InStep j) :
    s.teardown.Confined (Neutral s.topics.state) fun _ => True := by
  cases hc : s.configured with
  | true => simp [teardown, Neutral, (h.distinct hc).availability]
  | false => simp [teardown, h.idle hc, SessionState.announced, SessionState.active]

lemma announce_neutral (h : s.topics.Distinct) :
    s.announce.Confined (Neutral s.topics.state) fun _ => True := by
  simp [announce, Neutral, h.availability, h.discovery]

lemma leave_inStep (h : s.InStep j) (hc : s.configured = true) {next : SessionState}
    (hn : next ≠ .subscribed) : (s.transition next now).Ensures surroundings InStep j := by
  refine (transition_inStep now s.dirty h hc fun hs => absurd hs hn).mono ?_
  rintro _ j ⟨rfl, h⟩
  exact h

lemma fail_inStep (h : s.InStep j) (hc : s.configured = true) (why : Failure) :
    (s.fail t now why).Ensures surroundings InStep j := by
  refine (Tracks.ensures h (teardown_neutral h)).bind ?_
  rintro _ j ⟨-, h⟩ _ _ rfl
  refine leave_inStep now ?_ ?_ ?_
  · exact h.neutral _ trivial
  · exact hc
  · decide

lemma lose_inStep (h : s.InStep j) (hc : s.configured = true) :
    (s.lose t now).Ensures surroundings InStep j := by
  rintro _ _ rfl
  refine leave_inStep now ?_ ?_ ?_
  · exact Tracks.neutral h _ trivial
  · exact hc
  · decide

lemma connect_inStep (h : s.InStep j) (hc : s.configured = true) :
    (s.connect t now).Ensures surroundings InStep j := by
  refine (transition_inStep now s.dirty ?_ ?_ fun hs => by cases hs).bind ?_
  · exact h
  · exact hc
  rintro _ j ⟨rfl, h⟩ ok _ rfl
  cases ok with
  | true =>
    rintro _ _ rfl
    exact (Tracks.attempt h (by decide) _ _).neutral _ trivial
  | false =>
    refine fail_inStep t now ?_ ?_ .refused
    · exact Tracks.attempt h (by decide) _ _
    · exact hc

lemma enterConnected_inStep (h : s.InStep j) (hc : s.configured = true) :
    (s.enterConnected t now).Ensures surroundings InStep j := by
  refine (transition_inStep now s.dirty h hc fun hs => by cases hs).bind ?_
  rintro s j ⟨rfl, h⟩
  refine (Tracks.ensures h (announce_neutral (h.distinct hc))).bind ?_
  rintro ok j ⟨-, h⟩
  cases ok with
  | true => exact h
  | false =>
    refine fail_inStep t now ?_ ?_ .announce
    · exact h
    · exact hc

lemma publishPending_inStep (h : s.InStep j) (hs : s.state = .subscribed) :
    s.publishPending.Ensures surroundings InStep j := by
  unfold publishPending
  split
  · exact h
  rintro ok _ rfl
  unfold InStep at h
  rw [hs] at h
  have h := h.publish s.generation true ok
  rw [← hs] at h
  cases ok with
  | true => exact h
  | false => exact h

lemma enterSubscribed_inStep (h : s.InStep j) (hc : s.configured = true) :
    (s.enterSubscribed now).Ensures surroundings InStep j := by
  rintro _ _ rfl
  refine (transition_inStep now true ?_ ?_ fun _ => rfl).bind ?_
  · exact Tracks.neutral h _ trivial
  · exact hc
  rintro _ j ⟨rfl, h⟩
  exact publishPending_inStep h rfl

/-! ### Operations -/

lemma update_inStep (h : s.InStep j) (linkUp : Bool) :
    (s.update t linkUp now).Ensures surroundings InStep j := by
  unfold update
  split
  · exact h
  rename_i hc
  have hc : s.configured = true := by
    cases hs : s.configured <;> simp_all
  split
  · split
    · exact h
    refine (Tracks.ensures h (teardown_neutral h)).bind ?_
    rintro _ j ⟨-, h⟩
    exact leave_inStep now h hc (by decide)
  cases hs : s.state with
  | idle => exact connect_inStep t now h hc
  | backoff =>
    dsimp only
    split
    · exact connect_inStep t now h hc
    · exact h
  | subscribed => exact publishPending_inStep h hs
  | _ =>
    dsimp only
    split
    · exact fail_inStep t now h hc _
    · exact h

lemma receive_neutral (payload : Bytes) :
    (s.receive payload now).Confined (Neutral s.topics.state) (· = s) := by
  unfold receive
  cases LockState.ofCommand? payload <;> simp [Neutral]

lemma handle_inStep (h : s.InStep j) (e : Event) :
    (s.handle t e now).Ensures surroundings InStep j := by
  unfold handle
  split
  · exact h
  rename_i hc
  have hc : s.configured = true := by
    cases hs : s.configured <;> simp_all
  split
  · exact h
  cases e.kind with
  | transportUp => simp [h, enterConnected_inStep t now h hc]
  | transportFailed => simp [h, fail_inStep t now h hc]
  | subscribed => simp [h, enterSubscribed_inStep now h hc]
  | publishFailed => simp [h, fail_inStep t now h hc]
  | transportLost => simp [h, lose_inStep t now h hc]
  | message =>
    dsimp only
    split
    · refine (Tracks.ensures h (receive_neutral now _)).mono ?_
      rintro _ j ⟨rfl, h⟩
      exact h
    · exact h
  | _ => exact h

lemma publish_inStep (h : s.InStep j) (l : LockState) (d : DoorState) :
    (s.publish l d).Ensures surroundings InStep (.recorded l d :: j) := by
  have hn := Tracks.note h l d
  unfold publish
  dsimp only
  split
  · rename_i hs
    simp only [Bool.and_eq_true, decide_eq_true_eq] at hs
    refine publishPending_inStep ?_ hs.1
    exact hn
  · exact hn

lemma shutdown_inStep (h : s.InStep j) : (s.shutdown t).Ensures surroundings InStep j := by
  unfold shutdown
  split
  · exact h
  refine (Tracks.ensures h (teardown_neutral h)).bind ?_
  rintro _ j ⟨-, h⟩
  split
  · rintro ok _ rfl
    have h := h.neutral (c := .flush t.mqttFlushTimeout) ok trivial
    cases ok with
    | true => exact h
    | false =>
      rintro _ _ rfl
      exact h.neutral _ trivial
  · exact h

lemma perform_inStep (h : s.InStep j) (op : Operation) :
    (s.perform t op).Ensures surroundings InStep (op.note j) := by
  cases op with
  | update linkUp now => exact update_inStep t now h linkUp
  | handle e now => exact handle_inStep t now h e
  | publish l d => exact publish_inStep h l d
  | shutdown => exact shutdown_inStep t h

lemma configure_inStep (c : Config) :
    (({} : Session).configure c).Ensures surroundings (fun r j => r.2.InStep j) [] := by
  have blank (configured : Bool) (topics : Topics)
      (hd : configured = true → topics.Distinct) :
      Tracks configured topics .idle .locked .unknown false [] :=
    ⟨hd, fun _ => rfl, rfl, rfl, trivial, fun hs => by cases hs⟩
  simp only [configure]
  split
  · rintro _ _ rfl
    exact (blank false _ (fun h => by cases h)).neutral _ trivial
  rename_i hb
  have hb : (({} : Topics).build c.deviceId.view).1 = true := by simpa using hb
  cases Document.discovery? c (({} : Topics).build c.deviceId.view).2 with
  | none =>
    rintro _ _ rfl
    exact (blank false _ (fun h => by cases h)).neutral _ trivial
  | some d =>
    dsimp only
    split
    · rintro _ _ rfl
      exact (blank false _ (fun h => by cases h)).neutral _ trivial
    · exact blank true _ fun _ => Topics.build_distinct hb

/-- **No update is lost**: after a configuration and any operations, whatever the transport takes,
each publish of the state that it took was of the values recorded last and was made while
subscribed. A subscribed session with nothing left to publish has published the values it holds,
which are those recorded last, since it last asked for a connection. -/
theorem published_state (t : Timing) (c : Config) (ops : List Operation) :
    (({} : Session).configure c).Ensures surroundings (fun r => Always t (fun s j =>
      (s.lock, s.door) = recorded j ∧ s.state.code = told j ∧ Faithful s.topics.state j ∧
      (s.state = .subscribed → s.stopped = false → s.dirty = false →
        published s.topics.state j = some (Document.state s.lock s.door))) ops r.2) [] := by
  refine (configure_inStep c).mono fun r j h => ?_
  refine always_of_keep (fun s j op h => perform_inStep t h op) (fun s j h => ?_) ops h
  exact ⟨h.recorded.symm, h.told.symm, h.faithful, fun hs _ hd => h.published hs hd⟩

end Session

end DoorControl
