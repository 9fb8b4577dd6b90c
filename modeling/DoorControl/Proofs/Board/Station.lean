import DoorControl.Proofs.Board.Attempt
import DoorControl.Proofs.Board.Requests

/-!
The two tasks between their two queues: requests go one way, and events, from the transport's task
and from others, come back the other way. A session that is announced over a connection that is gone
has an alarm coming, unless the event queue refused it.
-/

namespace DoorControl

open Program Deed

/-- The event queue, the oldest event first. -/
structure Inbox where
  capacity : Nat
  events : List Event := []

namespace Inbox

/-- A full queue refuses an event. -/
def post (b : Inbox) (e : Event) : Bool × Inbox :=
  if b.events.length < b.capacity then (true, { b with events := b.events ++ [e] }) else (false, b)

/-- The events of others are posted, as far as there is room. -/
def others (b : Inbox) (es : List Event) : Inbox := es.foldl (fun b e => (b.post e).2) b

/-- Surroundings in which what is sent goes into the queue, or is refused by a full one. -/
def surroundings : Surroundings Board Inbox where
  may
    | .sendEvent e, b, sent, b' => (sent, b') = b.post e
    | .sendEventFromInterrupt e, b, sent, b' => (sent.1, b') = b.post e
    | _, b, _, b' => b' = b

variable {b b' : Inbox} {e a : Event}

lemma mem_post (ha : a ∈ b.events) (e : Event) : a ∈ (b.post e).2.events := by
  unfold post
  split
  · exact List.mem_append_left _ ha
  · exact ha

lemma mem_others (ha : a ∈ b.events) (es : List Event) : a ∈ (b.others es).events := by
  induction es generalizing b with
  | nil => exact ha
  | cons e es ih => exact ih (mem_post ha e)

lemma mem_of_post (h : (true, b') = b.post e) : e ∈ b'.events := by
  unfold post at h
  split at h
  · obtain ⟨-, rfl⟩ := Prod.mk.inj h
    simp
  · cases h

lemma mem_may {c : Board.Call} {r : Board.Answer c} (h : surroundings.may c b r b')
    (ha : a ∈ b.events) : a ∈ b'.events := by
  cases c with
  | sendEvent e =>
    have h : b' = (b.post e).2 := congrArg Prod.snd h
    exact h ▸ mem_post ha e
  | sendEventFromInterrupt e =>
    have h : b' = (b.post e).2 := congrArg Prod.snd h
    exact h ▸ mem_post ha e
  | _ =>
    obtain rfl := h
    exact ha

lemma mem_of_posted {y : Exchange Board} (h : surroundings.may y.call b y.answer b')
    (hy : (Deed.called y).posted? = some e) : e ∈ b'.events := by
  obtain ⟨c, r⟩ := y
  cases c with
  | sendEvent e' =>
    cases r with
    | true =>
      obtain rfl := Option.some.inj hy
      exact mem_of_post h
    | false => cases hy
  | sendEventFromInterrupt e' =>
    obtain ⟨sent, woken⟩ := r
    cases sent with
    | true =>
      obtain rfl := Option.some.inj hy
      exact mem_of_post h
    | false => cases hy
  | _ => cases hy

end Inbox

/-- The two tasks and both queues between them. -/
structure Station extends Tasks where
  inbox : Inbox

namespace Station

/-- What happens next: a task makes its next call or begins something new when it has nothing left
to do, where the device's task may take the oldest event out and hand it to the session; or others
post events. -/
inductive Move
  | device
  | transport
  | perform (op : Session.Operation)
  | pump (now : Clock)
  | serve
  | others (es : List Event)

/-- Both tasks at their start, with empty queues. -/
def start (c : Config) (opened : Bool) (capacity room : Nat) : Station where
  toTasks := Tasks.start c opened capacity
  inbox := { capacity := room }

/-- Whatever is answered, `post` holds after the move. -/
def Leads (t : Timing) (opened : Bool) (post : Station → Prop) : Move → Station → Prop
  | .device, ⟨⟨p, q, l⟩, b⟩ =>
    match p with
    | .done s => post ⟨⟨.done s, q, l⟩, b⟩
    | .call c next => ∀ r l' b', Line.device.may c l r l' → Inbox.surroundings.may c b r b' →
      post ⟨⟨next r, q, l'⟩, b'⟩
  | .transport, ⟨⟨p, q, l⟩, b⟩ =>
    match q with
    | .done x => post ⟨⟨p, .done x, l⟩, b⟩
    | .call c next => ∀ r l' b', Line.transport.may c l r l' → Inbox.surroundings.may c b r b' →
      post ⟨⟨p, next r, l'⟩, b'⟩
  | .perform op, ⟨⟨p, q, l⟩, b⟩ =>
    match p with
    | .done s => post ⟨⟨(s.perform t op).lower (Driver.lower opened), q, l⟩, b⟩
    | .call c next => post ⟨⟨.call c next, q, l⟩, b⟩
  | .pump now, ⟨⟨p, q, l⟩, b⟩ =>
    match p, b.events with
    | .done s, e :: rest =>
      post ⟨⟨(s.perform t (.handle e now)).lower (Driver.lower opened), q, l⟩,
        { b with events := rest }⟩
    | p, _ => post ⟨⟨p, q, l⟩, b⟩
  | .serve, ⟨⟨p, q, l⟩, b⟩ =>
    match q with
    | .done x => post ⟨⟨p, x.serve Board.postEvent, l⟩, b⟩
    | .call c next => post ⟨⟨p, .call c next, l⟩, b⟩
  | .others es, w => post { w with inbox := w.inbox.others es }

/-- Whatever is answered, `post` holds after the moves. -/
def Always (t : Timing) (opened : Bool) (post : Station → Prop) : List Move → Station → Prop
  | [], w => post w
  | m :: rest, w => Leads t opened (Always t opened post rest) m w

/-- With both tasks at rest, a session that is announced over a connection of its own generation
which is gone has an alarm in the event queue or a request in the other queue that needs the
connection, or the log says that the event queue refused an alarm in this attempt. -/
def Signalled (w : Station) : Prop :=
  ∀ s x, w.device = .done s → w.transport = .done x → s.stopped = false →
    s.state.announced = true → x.generation = s.generation → x.connected = false →
    (∃ e ∈ w.inbox.events, e.Alarms s.generation) ∨
      (∃ i ∈ w.line.waiting, i.request.errand?.isSome ∧ i.request.generation = s.generation) ∨
      Dropped w.line.past

/-- An alarm that was put into the event queue in the present attempt is still there, or the attempt
is about to be over. -/
def Heeded (w : Station) : Prop :=
  (∃ c, Issue.lastConnect (taken w.line.past) = some (w.line.attempts, c)) →
    Warned (.ofNat w.line.attempts) w.line.past →
    (∃ e ∈ w.inbox.events, e.Alarms (.ofNat w.line.attempts)) ∨
      w.device.Ensures Ledger.surroundings
        (fun s v => Session.Over w.line.attempts s v.attempts) w.line.ledger

/-- What holds of the station however it came to be where it is. -/
structure Sound (w : Station) : Prop where
  tasks : w.toTasks.Sound
  loud : w.transport.Ensures Deed.surroundings Transport.Loud w.line.past
  numbered : w.line.ledger.Numbered
  heeded : w.Heeded

end Station

/-! ### The attempt of the requests that were taken -/

lemma Issue.mem_of_lastConnect {past : List Issue} {n : Nat} {c : ConnectRequest}
    (h : lastConnect past = some (n, c)) : ⟨n, .connect c⟩ ∈ past := by
  obtain ⟨⟨m, r⟩, hx, he⟩ := List.exists_of_findSome?_eq_some h
  cases r with
  | connect d =>
    obtain ⟨rfl, rfl⟩ := Prod.mk.inj (Option.some.inj he)
    exact hx
  | _ => cases he

namespace Deed

variable {past : List Deed} {n : Nat} {c : ConnectRequest} {x : Issue}

lemma lastConnect_took (hx : ∀ c, x.request ≠ .connect c) :
    Issue.lastConnect (taken (took x :: past)) = Issue.lastConnect (taken past) :=
  Issue.lastConnect_cons_of_ne hx _

lemma ne_connect_of_connects (hx : (took x).connects = false) (d : ConnectRequest) :
    x.request ≠ .connect d := by
  obtain ⟨n, r⟩ := x
  rintro rfl
  cases hx

lemma le_attempt_of_present (hsorted : (taken past).Pairwise Ledger.After)
    (hlast : Issue.lastConnect (taken past) = some (n, c)) (hx : x ∈ taken (present past)) :
    n ≤ x.attempt := by
  induction past with
  | nil => cases hx
  | cons d past ih =>
    cases d with
    | called y => exact ih hsorted hlast hx
    | took y =>
      obtain ⟨hafter, hsorted⟩ := List.pairwise_cons.1 hsorted
      by_cases hy : ∃ d, y.request = .connect d
      · obtain ⟨m, r⟩ := y
        obtain ⟨d, rfl⟩ := hy
        cases hx
      · have hne : ∀ d, y.request ≠ .connect d := fun d hd => hy ⟨d, hd⟩
        rw [lastConnect_took hne] at hlast
        rw [present_took hne] at hx
        rcases List.mem_cons.1 hx with rfl | hx
        · exact (hafter _ (Issue.mem_of_lastConnect hlast)).le
        · exact ih hsorted hlast hx

/-- A request of the newest attempt that needs a connection was taken since the connect of it. -/
lemma present_of_taken (hk : Kept past) (hsorted : (taken past).Pairwise Ledger.After)
    (hbounded : ∀ y ∈ taken past, y.attempt ≤ x.attempt) (hx : x ∈ taken past)
    (he : x.request.errand?.isSome) :
    x ∈ taken (present past) ∧ ∃ c, Issue.lastConnect (taken past) = some (x.attempt, c) := by
  induction past with
  | nil => cases hx
  | cons d past ih =>
    have hk' := hk.of_suffix (List.suffix_cons d past)
    cases d with
    | called y => exact ih hk' hsorted hbounded hx
    | took y =>
      obtain ⟨hafter, hsorted⟩ := List.pairwise_cons.1 hsorted
      have hne : ∀ d, y.request ≠ .connect d := by
        intro d hd
        rcases List.mem_cons.1 hx with rfl | hx
        · simp [hd, Request.errand?] at he
        · have hlt := (hafter x hx).lt d hd
          exact absurd (hbounded y List.mem_cons_self) (Nat.not_le_of_lt hlt)
      rw [present_took hne, lastConnect_took hne]
      rcases List.mem_cons.1 hx with rfl | hx
      · exact ⟨List.mem_cons_self, (hk.rightful x past List.suffix_rfl).connect he⟩
      · obtain ⟨hx, hc⟩ := ih hk' hsorted (fun z hz => hbounded z (List.mem_cons_of_mem _ hz)) hx
        exact ⟨List.mem_cons_of_mem _ hx, hc⟩

end Deed

/-! ### Steps -/

lemma Line.past_of_transport {l l' : Line} {c : Board.Call} {r : Board.Answer c}
    (h : transport.may c l r l') : l'.past = l.past ∨ (∃ x, l'.past = took x :: l.past) ∨
      l'.past = called ⟨c, r⟩ :: l.past := by
  cases c with
  | receiveRequest =>
    simp only [transport, receive] at h
    split at h
    · obtain ⟨-, rfl⟩ := Prod.mk.inj h
      exact .inl rfl
    · obtain ⟨-, rfl⟩ := Prod.mk.inj h
      exact .inr (.inl ⟨_, rfl⟩)
  | _ =>
    obtain rfl := h
    exact .inr (.inr rfl)

namespace Station

namespace Sound

variable {t : Timing} {opened : Bool} {p : Program Board Session} {q : Program Board Transport}
  {l l' : Line} {b b' : Inbox} {c : Board.Call} {r : Board.Answer c} {s : Session}

lemma mem_sent {w : Station} {x : Issue} (hx : x ∈ taken w.line.past) : x ∈ w.line.ledger.sent :=
  List.mem_append_right _ hx

lemma taken_sorted {w : Station} (hw : w.Sound) : (taken w.line.past).Pairwise Ledger.After :=
  hw.numbered.sorted.sublist (List.sublist_append_right _ _)

/-- The requests of the present attempt of a warned session are of its last attempt. -/
lemma attempt_of_present {w : Station} (hw : w.Sound) {d : ConnectRequest}
    (hlast : Issue.lastConnect (taken w.line.past) = some (w.line.attempts, d)) {x : Issue}
    (hx : x ∈ taken (present w.line.past)) : x.attempt = w.line.attempts := by
  have hsent := mem_sent (taken_of_present hx)
  exact Nat.le_antisymm (hw.numbered.bounded x hsent)
    (le_attempt_of_present hw.taken_sorted hlast hx)

lemma device_call {next : Board.Answer c → Program Board Session}
    (hw : Sound ⟨⟨.call c next, q, l⟩, b⟩) (hl : Line.device.may c l r l')
    (hb : Inbox.surroundings.may c b r b') : Sound ⟨⟨next r, q, l'⟩, b'⟩ := by
  obtain ⟨hledger, hpast⟩ := Line.ledger_of_device hl
  obtain ⟨hnumbered, hle⟩ := hw.numbered.may hledger
  refine ⟨hw.tasks.device_call hl, ?_, hnumbered, ?_⟩
  · rw [show l'.past = l.past from hpast]
    exact hw.loud
  · rintro ⟨d, hlast⟩ hwarned
    simp only [hpast] at hlast hwarned
    -- a connect of this attempt was taken, so that the call is no connect
    have hge := hw.numbered.bounded _ (mem_sent (Issue.mem_of_lastConnect hlast))
    have heq : l'.attempts = l.attempts := Nat.le_antisymm hge hle
    simp only [heq] at hlast hwarned ⊢
    rcases hw.heeded ⟨d, hlast⟩ hwarned with ⟨e, he, ha⟩ | hover
    · exact .inl ⟨e, Inbox.mem_may hb he, ha⟩
    · exact .inr (hover r _ hledger)

lemma transport_call {next : Board.Answer c → Program Board Transport}
    (hw : Sound ⟨⟨p, .call c next, l⟩, b⟩) (hl : Line.transport.may c l r l')
    (hb : Inbox.surroundings.may c b r b') : Sound ⟨⟨p, next r, l'⟩, b'⟩ := by
  have hledger := Line.ledger_of_transport hl
  have hattempts : l'.attempts = l.attempts := congrArg Ledger.attempts hledger
  have hdeed := Line.deed_of_transport (fun _ _ hx => hw.tasks.rightful hx) hl
  refine ⟨hw.tasks.transport_call hl, hw.loud r _ hdeed, ?_, ?_⟩
  · rw [show l'.ledger = l.ledger from hledger]
    exact hw.numbered
  have hold (hlast : ∃ d, Issue.lastConnect (taken l.past) = some (l.attempts, d))
      (hwarned : Warned (.ofNat l.attempts) l.past) :
      (∃ e ∈ b'.events, e.Alarms (.ofNat l.attempts)) ∨
        p.Ensures Ledger.surroundings (fun s v => Session.Over l.attempts s v.attempts)
          l'.ledger := by
    rw [hledger]
    rcases hw.heeded hlast hwarned with ⟨e, he, ha⟩ | hover
    · exact .inl ⟨e, Inbox.mem_may hb he, ha⟩
    · exact .inr hover
  rintro ⟨d, hlast⟩ hwarned
  simp only [hattempts] at hlast hwarned ⊢
  rcases Line.past_of_transport hl with hpast | ⟨x, hpast⟩ | hpast
  · rw [hpast] at hlast hwarned
    exact hold ⟨d, hlast⟩ hwarned
  · rw [hpast] at hlast hwarned
    obtain ⟨hconnects, ⟨e, he, -⟩ | hwarned⟩ := hwarned
    · cases he
    · rw [lastConnect_took (ne_connect_of_connects hconnects)] at hlast
      exact hold ⟨d, hlast⟩ hwarned
  · rw [hpast] at hlast hwarned
    obtain ⟨-, ⟨e, he, ha, -⟩ | hwarned⟩ := hwarned
    · exact .inl ⟨e, Inbox.mem_of_posted hb he, ha⟩
    · exact hold ⟨d, hlast⟩ hwarned

/-- A session at rest is not about to end an attempt: it has ended it. -/
lemma down_of_over {n : Nat} (h : Session.Over n s n) : s.Down :=
  h.resolve_left (Nat.lt_irrefl n)

/-- What the device's task does next leaves an attempt that is over. -/
lemma heeded_of_down (hw : Sound ⟨⟨.done s, q, l⟩, b⟩) (hd : s.Down) (op : Session.Operation)
    (b' : Inbox) :
    Heeded ⟨⟨(s.perform t op).lower (Driver.lower opened), q, l⟩, b'⟩ :=
  fun _ _ => .inr (Session.Entered.perform_over t hw.tasks.device hd opened op)

lemma perform (hw : Sound ⟨⟨.done s, q, l⟩, b⟩) (op : Session.Operation) :
    Sound ⟨⟨(s.perform t op).lower (Driver.lower opened), q, l⟩, b⟩ := by
  refine ⟨hw.tasks.perform t opened op, hw.loud, hw.numbered, fun hlast hwarned => ?_⟩
  rcases hw.heeded hlast hwarned with halarm | hover
  · exact .inl halarm
  · exact heeded_of_down hw (down_of_over hover) op b hlast hwarned

/-- The alarm that was waited for is handed to a session with something to fail. -/
lemma pump {now : Clock} {e : Event} {rest : List Event}
    (hw : Sound ⟨⟨.done s, q, l⟩, b⟩) (hb : b.events = e :: rest) :
    Sound ⟨⟨(s.perform t (.handle e now)).lower (Driver.lower opened), q, l⟩,
      { b with events := rest }⟩ := by
  refine ⟨hw.tasks.perform t opened _, hw.loud, hw.numbered, fun hlast hwarned => ?_⟩
  rcases hw.heeded hlast hwarned with ⟨a, ha, halarm⟩ | hover
  · rcases List.mem_cons.1 (hb ▸ ha) with rfl | ha
    · obtain ⟨d, hd⟩ := hlast
      obtain ⟨⟨n, r⟩, hx, hr⟩ := hwarned.busy
      obtain rfl : n = l.attempts := hw.attempt_of_present hd hx
      have hsent := mem_sent (w := ⟨⟨.done s, q, l⟩, b⟩) (taken_of_present hx)
      have hannounced := Session.Entered.announced hw.tasks.device hsent hr
      refine .inr ((Session.Entered.handle_down t now hw.tasks.device halarm hannounced opened).mono
        fun s' v' hd => .inr hd)
    · exact .inl ⟨a, ha, halarm⟩
  · exact heeded_of_down hw (down_of_over hover) _ _ hlast hwarned

lemma serve {x : Transport} (hw : Sound ⟨⟨p, .done x, l⟩, b⟩) :
    Sound ⟨⟨p, x.serve Board.postEvent, l⟩, b⟩ :=
  ⟨hw.tasks.serve, Transport.serve_loud hw.tasks.transport hw.loud, hw.numbered, hw.heeded⟩

lemma others {w : Station} (hw : w.Sound) (es : List Event) :
    Sound { w with inbox := w.inbox.others es } := by
  refine ⟨hw.tasks, hw.loud, hw.numbered, fun hlast hwarned => ?_⟩
  rcases hw.heeded hlast hwarned with ⟨e, he, ha⟩ | hover
  · exact .inl ⟨e, Inbox.mem_others he es, ha⟩
  · exact .inr hover

/-- Whatever happens next, the station stays sound. -/
lemma leads {w : Station} (hw : w.Sound) (m : Move) : Leads t opened Sound m w := by
  obtain ⟨⟨p, q, l⟩, b⟩ := w
  cases m with
  | device =>
    cases p with
    | done s => exact hw
    | call c next => exact fun r l' b' hl hb => hw.device_call hl hb
  | transport =>
    cases q with
    | done x => exact hw
    | call c next => exact fun r l' b' hl hb => hw.transport_call hl hb
  | perform op =>
    cases p with
    | done s => exact hw.perform op
    | call c next => exact hw
  | pump now =>
    cases p with
    | done s =>
      obtain ⟨room, events⟩ := b
      cases events with
      | nil => exact hw
      | cons e rest => exact hw.pump rfl
    | call c next => exact hw
  | serve =>
    cases q with
    | done x => exact hw.serve
    | call c next => exact hw
  | others es => exact hw.others es

lemma start (c : Config) (opened : Bool) (capacity room : Nat) :
    (start c opened capacity room).Sound where
  tasks := Tasks.Sound.start c opened capacity
  loud := by
    rintro - ⟨x, hx, -⟩
    cases hx
  numbered := ⟨by simp [Station.start, Tasks.start, Line.ledger, taken],
    by simp [Station.start, Tasks.start, Line.ledger, taken]⟩
  heeded := by
    rintro - hwarned
    exact hwarned.elim

/-- A sound station gives its alarms. -/
lemma signalled {w : Station} (hw : w.Sound) : w.Signalled := by
  obtain ⟨⟨p, q, l⟩, b⟩ := w
  rintro s x ⟨rfl⟩ ⟨rfl⟩ hstopped hannounced hgeneration hdown
  have hs : s.Entered l.ledger := hw.tasks.device
  obtain ⟨hg, ⟨topic, hsent⟩, hstay⟩ := hs.listening hstopped hannounced
  rcases List.mem_append.1 hsent with hwaiting | htaken
  · exact .inr (.inl ⟨_, List.mem_reverse.1 hwaiting, rfl, rfl⟩)
  have hbounded (y : Issue) (hy : y ∈ taken l.past) : y.attempt ≤ l.attempts :=
    hw.numbered.bounded y (List.mem_append_right _ hy)
  obtain ⟨hpresent, d, hlast⟩ :=
    present_of_taken hw.tasks.kept hw.taken_sorted hbounded htaken rfl
  have hloud : x.Loud l.past := hw.loud
  rcases hloud hdown ⟨_, hpresent, rfl⟩ with ⟨⟨n, r⟩, hy, g, rfl⟩ | hwarned | hdropped
  · -- the session has not taken leave of the present attempt
    obtain rfl : n = l.attempts := hw.attempt_of_present hlast hy
    have hleave := mem_sent (w := ⟨⟨.done s, .done x, l⟩, b⟩) (taken_of_present hy)
    exact absurd hleave (hstay g)
  · rw [hgeneration, hg] at hwarned
    rcases hw.heeded ⟨d, hlast⟩ hwarned with halarm | hover
    · exact .inl (hg.symm ▸ halarm)
    · rcases down_of_over hover with hinactive | hf
      · rw [Session.active_of_announced hannounced] at hinactive
        cases hinactive
      · rw [hstopped] at hf
        cases hf
  · exact .inr (.inr hdropped)

end Sound

lemma Leads.mono {t : Timing} {opened : Bool} {post post' : Station → Prop} {m : Move} {w : Station}
    (h : Leads t opened post m w) (hpost : ∀ w, post w → post' w) : Leads t opened post' m w := by
  obtain ⟨⟨p, q, l⟩, b⟩ := w
  cases m with
  | device =>
    cases p with
    | done s => exact hpost _ h
    | call c next => exact fun r l' b' hl hb => hpost _ (h r l' b' hl hb)
  | transport =>
    cases q with
    | done x => exact hpost _ h
    | call c next => exact fun r l' b' hl hb => hpost _ (h r l' b' hl hb)
  | pump now =>
    obtain ⟨room, events⟩ := b
    cases p <;> cases events <;> exact hpost _ h
  | perform op => cases p <;> exact hpost _ h
  | serve => cases q <;> exact hpost _ h
  | others es => exact hpost _ h

/-- **A dead connection is signalled**: however the calls of the two tasks and the events of others
come between each other, whenever the connection dies and whatever the client answers, a session that
is announced over a connection of its own generation which the transport's task knows to be gone has
an alarm in the event queue, or a request in the other queue that needs the connection. The only way
out is an event queue that refuses the alarm: the log then says that it was dropped. -/
theorem dead_connection_signalled (t : Timing) (c : Config) (opened : Bool) (capacity room : Nat)
    (moves : List Move) : Always t opened Signalled moves (start c opened capacity room) := by
  have hsound {w : Station} (hw : w.Sound) : Always t opened Signalled moves w := by
    induction moves generalizing w with
    | nil => exact hw.signalled
    | cons m rest ih => exact (hw.leads m).mono fun w hw => ih hw
  exact hsound (Sound.start c opened capacity room)

end Station

end DoorControl
