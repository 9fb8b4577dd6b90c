import DoorControl.Board.Transport
import DoorControl.Proofs.Program

/-!
Notes on the requests. To say when a request is carried out, its end has to show: the rounds of the
transport's task are written once more with a note after each request, and without the notes they
are the same rounds. A request is taken out of the queue under the mark of the task, and the mark
comes down when it is carried out.
-/

namespace DoorControl

open Program

/-- A call of the board, or a note that a request was carried out. -/
inductive Noted.Call
  | board (c : Board.Call)
  | finished (r : Request)

/-- The calls of the board with notes between them, of which the board learns nothing. -/
abbrev Noted : Interface where
  Call := Noted.Call
  Answer
    | .board c => Board.Answer c
    | .finished _ => Unit

namespace Noted

def ask (c : Board.Call) : Program Noted (Board.Answer c) := Program.ask (I := Noted) (Call.board c)

def finish (r : Request) : Program Noted Unit := Program.ask (I := Noted) (Call.finished r)

/-- The calls that leave the requests and the mark alone. -/
def Apart : Board.Call → Prop
  | .sendRequest _ | .receiveRequest | .setDraining _ => False
  | _ => True

/-- The calls of the board in `P`, and no notes. -/
def Within (P : Board.Call → Prop) : Call → Prop
  | .board c => P c
  | .finished _ => False

/-- The calls and notes of a task that sends no requests. -/
def Takes : Call → Prop
  | .board (.sendRequest _) => False
  | _ => True

/-- Every call can be answered, and undoes nothing. -/
lemma answerable (c : Call) (past : List (Exchange Noted)) :
    ∃ r past', (Surroundings.history Noted).may c past r past' ∧ past <:+ past' := by
  cases c with
  | finished r => exact ⟨(), _, rfl, List.suffix_cons _ _⟩
  | board c => cases c with
    | accessPointAddress => exact ⟨⟨0, 0, 0, 0⟩, _, rfl, List.suffix_cons _ _⟩
    | _ => exact ⟨default, _, rfl, List.suffix_cons _ _⟩

end Noted

namespace Program

variable {α β : Type}

/-- A program that takes no notes. -/
def noted : Program Board α → Program Noted α := lower Noted.ask

/-- A program without its notes. -/
def unnoted : Program Noted α → Program Board α :=
  lower fun
    | .board c => Board.ask c
    | .finished _ => pure ()

@[simp] lemma unnoted_finish (r : Request) : (Noted.finish r).unnoted = done () := rfl

@[simp] lemma unnoted_bind (p : Program Noted α) (f : α → Program Noted β) :
    (p >>= f).unnoted = p.unnoted >>= fun a => (f a).unnoted :=
  lower_bind _ p f

@[simp] lemma unnoted_noted (p : Program Board α) : p.noted.unnoted = p := by
  induction p with
  | done a => rfl
  | call c next ih =>
    change call c (fun r => (next r).noted.unnoted) = call c next
    rw [funext ih]

lemma noted_confined {P : Board.Call → Prop} {p : Program Board α} {post : α → Prop}
    (hp : p.Confined P post) : p.noted.Confined (Noted.Within P) post := by
  induction p with
  | done a => exact hp
  | call c next ih => exact ⟨hp.1, fun r => ih r (hp.2 r)⟩

end Program

namespace Transport

/-- Carries out up to `n` of the requests that wait, with a note after each. -/
def drainNoted (t : Transport) : Nat → Program Noted Transport
  | 0 => pure t
  | n + 1 => do
    match ← Noted.ask .receiveRequest with
    | none => pure t
    | some r =>
      let t ← (t.execute Board.postEvent r).noted
      Noted.finish r
      t.drainNoted n

/-- One round of the transport's task, with a note after each of up to `burst` requests. -/
def serveNoted (burst : Nat) (t : Transport) : Program Noted Transport := do
  if ← Noted.ask (.queueExists .requests) then
    Noted.ask (.setDraining true)
    let t ← t.drainNoted burst
    Noted.ask (.setDraining false)
    (t.attend Board.postEvent).noted
  else (t.attend Board.postEvent).noted

lemma drainNoted_unnoted (t : Transport) (n : Nat) :
    (t.drainNoted n).unnoted = t.drain Board.postEvent n := by
  induction n generalizing t with
  | zero => rfl
  | succ n ih =>
    rw [drainNoted, drain, unnoted_bind]
    refine bind_congr fun r => ?_
    cases r with
    | none => rfl
    | some r => simp [ih]

/-- Without the notes, it is the round of the transport's task. -/
lemma serveNoted_unnoted (t : Transport) :
    (t.serveNoted QueueName.requests.capacity).unnoted = t.serve Board.postEvent := by
  rw [serveNoted, serve, unnoted_bind]
  refine bind_congr fun there => ?_
  cases there with
  | false => exact unnoted_noted _
  | true =>
    simp only [if_true, unnoted_bind, drainNoted_unnoted, unnoted_noted]
    rfl

end Transport

/-! ### How far the requests came -/

namespace Noted

/-- Which requests the transport's task took and which it finished, the newest first, and whether it
left its mark up. -/
structure Standing where
  marked : Bool := false
  taken : List Request := []
  finished : List Request := []

namespace Standing

def after (s : Standing) : Exchange Noted → Standing
  | ⟨.board (.setDraining on), _⟩ => { s with marked := on }
  | ⟨.board .receiveRequest, some r⟩ => { s with taken := r :: s.taken }
  | ⟨.finished r, _⟩ => { s with finished := r :: s.finished }
  | _ => s

/-- Requests are finished in the order in which they were taken, and while the mark is down none is
left over. -/
structure Tidy (s : Standing) : Prop where
  suffix : s.finished <:+ s.taken
  even : s.marked = false → s.finished = s.taken

lemma after_apart {c : Board.Call} (hc : Apart c) (s : Standing) (r : Board.Answer c) :
    s.after ⟨Call.board c, r⟩ = s := by
  cases c <;> first | rfl | exact hc.elim

lemma suffix_after (s : Standing) (x : Exchange Noted) :
    s.taken <:+ (s.after x).taken ∧ s.finished <:+ (s.after x).finished := by
  unfold after
  split <;> simp

end Standing

/-- How far the requests came with the exchanges of the transport's task, the newest first. -/
def standing (past : List (Exchange Noted)) : Standing := past.foldr (fun x s => s.after x) {}

/-- The standing was tidy at every moment. -/
def Orderly (past : List (Exchange Noted)) : Prop := ∀ past', past' <:+ past → (standing past').Tidy

/-- The standing was tidy at every moment, the mark is at `on`, and no request is being carried
out. -/
structure Rested (on : Bool) (past : List (Exchange Noted)) : Prop where
  orderly : Orderly past
  marked : (standing past).marked = on
  even : (standing past).finished = (standing past).taken

variable {past : List (Exchange Noted)} {x : Exchange Noted} {on : Bool}

lemma standing_cons : standing (x :: past) = (standing past).after x := rfl

lemma standing_suffix {past' : List (Exchange Noted)} (h : past <:+ past') :
    (standing past).taken <:+ (standing past').taken ∧
      (standing past).finished <:+ (standing past').finished := by
  obtain ⟨new, rfl⟩ := h
  induction new with
  | nil => exact ⟨List.suffix_rfl, List.suffix_rfl⟩
  | cons x new ih =>
    obtain ⟨htaken, hfinished⟩ := (standing (new ++ past)).suffix_after x
    exact ⟨ih.1.trans htaken, ih.2.trans hfinished⟩

lemma Orderly.tidy (h : Orderly past) : (standing past).Tidy := h past List.suffix_rfl

lemma Orderly.nil : Orderly [] := by
  intro past' h
  rw [List.suffix_nil.1 h]
  exact ⟨List.suffix_rfl, fun _ => rfl⟩

lemma Orderly.cons (h : Orderly past) (hx : (standing (x :: past)).Tidy) : Orderly (x :: past) := by
  intro past' hp
  rcases List.suffix_cons_iff.1 hp with rfl | hp
  · exact hx
  · exact h past' hp

lemma Rested.cons (h : Orderly past) (hm : (standing (x :: past)).marked = on)
    (he : (standing (x :: past)).finished = (standing (x :: past)).taken) :
    Rested on (x :: past) where
  orderly := h.cons ⟨he ▸ List.suffix_rfl, fun _ => he⟩
  marked := hm
  even := he

/-- The standing is tidy in the middle of a round, too. -/
lemma tidy_of_ensures {α : Type} {q : Program Noted α}
    (hq : q.Ensures (.history Noted) (fun _ => Rested on) past) : (standing past).Tidy := by
  obtain ⟨t, past', h, hp⟩ := hq.reaches (R := fun past past' => past <:+ past')
    (fun _ => List.suffix_rfl) (fun _ _ _ => List.IsSuffix.trans) answerable
  exact h.orderly past hp

end Noted

namespace Transport

open Noted

variable {past : List (Exchange Noted)} {on : Bool} {t : Transport}

/-! ### The calls of each part -/

lemma reportResult_apart (t : Transport) (k : EventKind) :
    (t.reportResult Board.postEvent k).Confined Apart fun _ => True := by
  simp [reportResult, Board.postEvent, Board.sendEvent, Board.millis, Board.warn, Board.log,
    Board.ask, Apart]

lemma close_apart (t : Transport) : t.close.Confined Apart fun _ => True := by
  simp [close, stalled, Board.sleep, Board.ask, Apart]

lemma connect_apart (t : Transport) (c : ConnectRequest) :
    (t.connect Board.postEvent c).Confined Apart fun _ => True := by
  refine (close_apart t).bind fun t _ => ?_
  simp [stalled, Board.sleep, Board.warn, Board.error, Board.log, Board.ask, Apart,
    reportResult_apart]

lemma execute_apart (t : Transport) (r : Request) :
    (t.execute Board.postEvent r).Confined Apart fun _ => True := by
  cases r with
  | connect c => exact connect_apart t c
  | disconnect g => simp [execute, close_apart]
  | _ => simp [execute, Board.warn, Board.log, Board.ask, Apart, reportResult_apart]

lemma deliverAll_apart (t : Transport) (messages : List (Option Bytes × Bytes)) :
    (t.deliverAll Board.postEvent messages).Confined Apart fun _ => True := by
  induction messages with
  | nil => trivial
  | cons m rest ih =>
    simp [deliverAll, deliver, Board.postEvent, Board.sendEvent, Board.millis, Board.warn,
      Board.log, Board.ask, Apart, ih]

lemma attend_apart (t : Transport) : (t.attend Board.postEvent).Confined Apart fun _ => True := by
  simp [attend, Board.warn, Board.log, Board.ask, Apart, reportResult_apart, deliverAll_apart]

lemma takes_of_apart {α : Type} {p : Program Board α} (hp : p.Confined Apart fun _ => True) :
    p.noted.Confined Takes fun _ => True := by
  refine (noted_confined hp).mono ?_ fun _ => id
  rintro (c | r) hc
  · cases c <;> trivial
  · exact hc.elim

lemma drainNoted_takes (t : Transport) (n : Nat) :
    (t.drainNoted n).Confined Takes fun _ => True := by
  induction n generalizing t with
  | zero => trivial
  | succ n ih =>
    refine ⟨trivial, fun r => ?_⟩
    cases r with
    | none => trivial
    | some r =>
      exact (takes_of_apart (execute_apart t r)).bind fun t _ => ⟨trivial, fun _ => ih t⟩

lemma serveNoted_takes (burst : Nat) (t : Transport) :
    (t.serveNoted burst).Confined Takes fun _ => True := by
  refine ⟨trivial, fun there => ?_⟩
  cases there with
  | false => exact takes_of_apart (attend_apart t)
  | true =>
    refine ⟨trivial, fun _ => (drainNoted_takes t burst).bind fun t _ => ⟨trivial, fun _ => ?_⟩⟩
    exact takes_of_apart (attend_apart t)

/-! ### A round -/

lemma ensures_standing {α : Type} {p : Program Board α} {post : α → Prop}
    (hp : p.Confined Apart post) {past : List (Exchange Noted)} (ho : Orderly past) :
    p.noted.Ensures (.history Noted)
      (fun a past' => post a ∧ Orderly past' ∧ standing past' = standing past) past := by
  refine (noted_confined hp).ensures
    (K := fun past' => Orderly past' ∧ standing past' = standing past) ?_ ⟨ho, rfl⟩
  rintro (c | r) past' answer _ hc rfl ⟨ho, hs⟩
  · have hsame : standing (⟨Call.board c, answer⟩ :: past') = standing past' :=
      Standing.after_apart hc _ _
    exact ⟨ho.cons (hsame ▸ ho.tidy), hsame.trans hs⟩
  · exact hc.elim

lemma attend_rested (h : Rested on past) :
    (t.attend Board.postEvent).noted.Ensures (.history Noted) (fun _ => Rested on) past := by
  refine (ensures_standing (attend_apart t) h.orderly).mono ?_
  rintro t' past' ⟨-, ho, hs⟩
  exact ⟨ho, hs ▸ h.marked, hs ▸ h.even⟩

lemma drainNoted_rested (h : Rested true past) (n : Nat) :
    (t.drainNoted n).Ensures (.history Noted) (fun _ => Rested true) past := by
  induction n generalizing t past with
  | zero => exact h
  | succ n ih =>
    rintro r _ rfl
    cases r with
    | none => exact Rested.cons h.orderly h.marked h.even
    | some r =>
      -- the request is left over until its note, and the mark is up for as long
      have htaken : (standing (⟨Call.board .receiveRequest, some r⟩ :: past)).Tidy :=
        ⟨h.even ▸ List.suffix_cons r _, fun hdown => absurd (h.marked.symm.trans hdown) nofun⟩
      refine (ensures_standing (execute_apart t r) (h.orderly.cons htaken)).bind ?_
      rintro t' past' ⟨-, ho, hs⟩ _ _ rfl
      refine ih (Rested.cons ho ?_ ?_)
      · rw [standing_cons, hs]
        exact h.marked
      · rw [standing_cons, hs]
        exact congrArg (r :: ·) h.even

lemma serveNoted_rested (h : Rested false past) (burst : Nat) :
    (t.serveNoted burst).Ensures (.history Noted) (fun _ => Rested false) past := by
  rintro there _ rfl
  have h : Rested false (⟨Call.board (.queueExists .requests), there⟩ :: past) :=
    .cons h.orderly h.marked h.even
  cases there with
  | false => exact attend_rested h
  | true =>
    rintro _ _ rfl
    have hup : Rested true (⟨Call.board (.setDraining true), ()⟩ :: _) :=
      .cons h.orderly rfl h.even
    refine (drainNoted_rested hup burst).bind fun t past h => ?_
    rintro _ _ rfl
    exact attend_rested (.cons h.orderly rfl h.even)

end Transport

end DoorControl
