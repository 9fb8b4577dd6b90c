import DoorControl.Proofs.Board.Deeds

/-!
The request queue between the two tasks, whose calls come between each other in any way. What the
session puts in comes out in the same order, so that what is rightful when it is sent is rightful
when it is taken.
-/

namespace DoorControl

open Program Deed

/-- The request queue, the oldest request first, with how many connections were asked for and what
the transport's task did so far, the newest first. -/
structure Line where
  capacity : Nat
  attempts : Nat := 0
  waiting : List Issue := []
  past : List Deed := []

namespace Line

/-- A full queue refuses a request. -/
def send (l : Line) (r : Request) : Bool × Line :=
  let x := Issue.next l.attempts r
  if l.waiting.length < l.capacity then
    (true, { l with attempts := x.attempt, waiting := l.waiting ++ [x] })
  else (false, { l with attempts := x.attempt })

def receive (l : Line) : Option Request × Line :=
  match l.waiting with
  | [] => (none, l)
  | x :: rest => (some x.request, { l with waiting := rest, past := took x :: l.past })

/-- The surroundings of the device's task: the queue is there and answers as it must, and anything
else answers as it likes. -/
def device : Surroundings Board Line where
  may
    | .sendRequest r, l, taken, l' => (taken, l') = l.send r
    | .queueExists .requests, l, there, l' => there = true ∧ l' = l
    | _, l, _, l' => l' = l

/-- The surroundings of the transport's task, whose deeds are kept. -/
def transport : Surroundings Board Line where
  may
    | .receiveRequest, l, r, l' => (r, l') = l.receive
    | c, l, r, l' => l' = { l with past := called ⟨c, r⟩ :: l.past }

/-- What the queue took so far: what waits in it and what was taken out. -/
def ledger (l : Line) : Ledger := ⟨l.attempts, l.waiting.reverse ++ taken l.past⟩

variable {l l' : Line} {c : Board.Call} {r : Board.Answer c}

/-- The device's task finds the queue as one that keeps a ledger. -/
lemma ledger_of_device (h : device.may c l r l') :
    Ledger.surroundings.may c l.ledger r l'.ledger ∧ l'.past = l.past := by
  cases c with
  | sendRequest q =>
    simp only [device, send] at h
    split at h
    · obtain ⟨rfl, rfl⟩ := Prod.mk.inj h
      simp [Ledger.surroundings, Ledger.send, ledger]
    · obtain ⟨rfl, rfl⟩ := Prod.mk.inj h
      simp [Ledger.surroundings, Ledger.send, ledger]
  | queueExists q => cases q with
    | requests =>
      obtain ⟨rfl, rfl⟩ := h
      exact ⟨⟨rfl, rfl⟩, rfl⟩
    | _ =>
      obtain rfl := h
      exact ⟨rfl, rfl⟩
  | _ =>
    obtain rfl := h
    exact ⟨rfl, rfl⟩

/-- The transport's task takes nothing out of the ledger. -/
lemma ledger_of_transport (h : transport.may c l r l') : l'.ledger = l.ledger := by
  cases c with
  | receiveRequest =>
    simp only [transport, receive] at h
    split at h
    · obtain ⟨-, rfl⟩ := Prod.mk.inj h
      rfl
    · rename_i x rest hw
      obtain ⟨-, rfl⟩ := Prod.mk.inj h
      simp [ledger, hw, taken, issue?]
  | _ =>
    obtain rfl := h
    rfl

lemma deed_of_transport (hl : ∀ x past, x :: past <:+ l.ledger.sent → x.Rightful past)
    (h : transport.may c l r l') : Deed.surroundings.may c l.past r l'.past := by
  cases c with
  | receiveRequest =>
    simp only [transport, receive] at h
    split at h
    · obtain ⟨rfl, rfl⟩ := Prod.mk.inj h
      exact .inl ⟨rfl, rfl⟩
    · rename_i x rest hw
      obtain ⟨rfl, rfl⟩ := Prod.mk.inj h
      refine .inr ⟨x, rfl, rfl, hl x _ ?_⟩
      simp [ledger, hw]
  | _ =>
    obtain rfl := h
    rfl

end Line

/-! ### Two tasks -/

/-- The two tasks, each with what it still has to do, and the queue between them. -/
structure Tasks where
  device : Program Board Session
  transport : Program Board Transport
  line : Line

/-- What happens next: one of the tasks makes its next call, or begins something new when it has
nothing left to do. -/
inductive Move
  | device
  | transport
  | perform (op : Session.Operation)
  | serve

namespace Tasks

/-- Both tasks at their start, the session to be configured first. -/
def start (c : Config) (opened : Bool) (capacity : Nat) : Tasks where
  device := do
    let r ← (({} : Session).configure c).lower (Driver.lower opened)
    pure r.2
  transport := pure {}
  line := { capacity }

/-- Whatever is answered, `post` holds of the queue after the moves. -/
def Always (t : Timing) (opened : Bool) (post : Line → Prop) : List Move → Tasks → Prop
  | [], w => post w.line
  | .device :: rest, ⟨p, q, l⟩ =>
    match p with
    | .done s => Always t opened post rest ⟨.done s, q, l⟩
    | .call c next =>
      ∀ r l', Line.device.may c l r l' → Always t opened post rest ⟨next r, q, l'⟩
  | .transport :: rest, ⟨p, q, l⟩ =>
    match q with
    | .done x => Always t opened post rest ⟨p, .done x, l⟩
    | .call c next =>
      ∀ r l', Line.transport.may c l r l' → Always t opened post rest ⟨p, next r, l'⟩
  | .perform op :: rest, ⟨p, q, l⟩ =>
    match p with
    | .done s => Always t opened post rest ⟨(s.perform t op).lower (Driver.lower opened), q, l⟩
    | .call c next => Always t opened post rest ⟨.call c next, q, l⟩
  | .serve :: rest, ⟨p, q, l⟩ =>
    match q with
    | .done x => Always t opened post rest ⟨p, x.serve Board.postEvent, l⟩
    | .call c next => Always t opened post rest ⟨p, .call c next, l⟩

/-- Each task is on a way that ends well. -/
structure Sound (w : Tasks) : Prop where
  device : w.device.Ensures Ledger.surroundings Session.Entered w.line.ledger
  transport : w.transport.Ensures Deed.surroundings Transport.Steady w.line.past

namespace Sound

lemma rightful {w : Tasks} (hw : w.Sound) {x : Issue} {past : List Issue}
    (hx : x :: past <:+ w.line.ledger.sent) : x.Rightful past := by
  obtain ⟨s, v, hs, hv⟩ := hw.device.reaches (R := fun v v' => v.sent <:+ v'.sent)
    (fun _ => List.suffix_rfl) (fun _ _ _ => List.IsSuffix.trans) Ledger.answerable
  exact hs.rightful (hx.trans hv)

lemma kept {w : Tasks} (hw : w.Sound) : Kept w.line.past := by
  obtain ⟨x, past, hx, hp⟩ := hw.transport.reaches (R := fun past past' => past <:+ past')
    (fun _ => List.suffix_rfl) (fun _ _ _ => List.IsSuffix.trans) Deed.answerable
  exact hx.calm.kept.of_suffix hp

lemma start (c : Config) (opened : Bool) (capacity : Nat) : (start c opened capacity).Sound where
  device := (Session.configure_entered c opened).bind fun _ _ hr => hr
  transport := Transport.steady_new

section

variable {p : Program Board Session} {q : Program Board Transport} {l l' : Line} {c : Board.Call}
  {r : Board.Answer c}

lemma device_call {next : Board.Answer c → Program Board Session}
    (hw : Sound ⟨.call c next, q, l⟩) (hr : Line.device.may c l r l') :
    Sound ⟨next r, q, l'⟩ := by
  obtain ⟨hledger, hpast⟩ := Line.ledger_of_device hr
  exact ⟨hw.device r _ hledger, by rw [hpast]; exact hw.transport⟩

lemma transport_call {next : Board.Answer c → Program Board Transport}
    (hw : Sound ⟨p, .call c next, l⟩) (hr : Line.transport.may c l r l') :
    Sound ⟨p, next r, l'⟩ := by
  have hdeed := Line.deed_of_transport (fun _ _ hx => hw.rightful hx) hr
  exact ⟨by rw [Line.ledger_of_transport hr]; exact hw.device, hw.transport r _ hdeed⟩

lemma perform {s : Session} (hw : Sound ⟨.done s, q, l⟩) (t : Timing) (opened : Bool)
    (op : Session.Operation) : Sound ⟨(s.perform t op).lower (Driver.lower opened), q, l⟩ :=
  ⟨Session.Entered.perform hw.device t opened op, hw.transport⟩

lemma serve {x : Transport} (hw : Sound ⟨p, .done x, l⟩) :
    Sound ⟨p, x.serve Board.postEvent, l⟩ :=
  ⟨hw.device, Transport.serve_steady hw.transport⟩

end

/-- Whatever the tasks do next leaves both on their ways. -/
lemma always {t : Timing} {opened : Bool} {post : Line → Prop}
    (hpost : ∀ w : Tasks, w.Sound → post w.line) (moves : List Move) {w : Tasks} (hw : w.Sound) :
    Always t opened post moves w := by
  induction moves generalizing w with
  | nil => exact hpost w hw
  | cons m rest ih =>
    obtain ⟨p, q, l⟩ := w
    cases m with
    | device =>
      cases p with
      | done s => exact ih hw
      | call c next => exact fun r l' hr => ih (hw.device_call hr)
    | transport =>
      cases q with
      | done x => exact ih hw
      | call c next => exact fun r l' hr => ih (hw.transport_call hr)
    | perform op =>
      cases p with
      | done s => exact ih (hw.perform t opened op)
      | call c next => exact ih hw
    | serve =>
      cases q with
      | done x => exact ih hw.serve
      | call c next => exact ih hw

end Sound

/-- **Requests keep to their attempt**: however the calls of the two tasks come between each other,
whatever the queue refuses and whatever the client answers, each publish and subscribe request that
is taken out of the queue comes behind the connect of its own attempt, and none is dropped for its
generation: the client does it over the connection of that attempt, or the log says that it failed.
The client publishes and subscribes for nothing else. -/
theorem requests_keep_to_attempt (t : Timing) (c : Config) (opened : Bool) (capacity : Nat)
    (moves : List Move) :
    Always t opened (fun l => Kept l.past) moves (start c opened capacity) := by
  have hstart : (start c opened capacity).Sound := Sound.start c opened capacity
  exact Sound.always (fun w hw => hw.kept) moves hstart

end Tasks

end DoorControl
