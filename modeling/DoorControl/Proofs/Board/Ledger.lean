import DoorControl.Board.Driver
import DoorControl.Proofs.Session.Attempts

/-!
What the session puts into the request queue, each request with the attempt that makes it. An
attempt starts with its connect, and goes on only if that was queued; so the last connect that is
queued before a publish or a subscribe is the one of the same attempt.
-/

namespace DoorControl

open Bytes Program

/-! ### Requests and their attempts -/

/-- What the client is to do for a request that needs a connection, and what the log says if it
cannot. -/
def Request.errand? : Request → Option (Board.Call × Bytes)
  | .publish _ topic payload retained =>
    some (.publish topic payload retained, ascii "publish " ++ topic ++ ascii " failed")
  | .subscribe _ topic => some (.subscribe topic 1, ascii "subscribe " ++ topic ++ ascii " failed")
  | _ => none

/-- A request with the number of the attempt that makes it. -/
structure Issue where
  attempt : Nat
  request : Request

namespace Issue

/-- A request that is made after a number of attempts. A connect makes one more. -/
def next (attempts : Nat) (r : Request) : Issue where
  attempt := match r with
    | .connect _ => attempts + 1
    | _ => attempts
  request := r

def connect? : Issue → Option (Nat × ConnectRequest)
  | ⟨n, .connect c⟩ => some (n, c)
  | _ => none

/-- The last connect of some requests, the newest first, with its attempt. -/
def lastConnect (past : List Issue) : Option (Nat × ConnectRequest) := past.findSome? connect?

/-- A request carries the number of its attempt, and if it needs a connection the last connect
before it is the one of its attempt. -/
structure Rightful (past : List Issue) (x : Issue) : Prop where
  generation : x.request.generation = .ofNat x.attempt
  connect : x.request.errand?.isSome → ∃ c, lastConnect past = some (x.attempt, c)

lemma lastConnect_cons_of_ne {x : Issue} (h : ∀ c, x.request ≠ .connect c) (past : List Issue) :
    lastConnect (x :: past) = lastConnect past := by
  obtain ⟨n, r⟩ := x
  cases r with
  | connect c => exact absurd rfl (h c)
  | _ => rfl

end Issue

/-- How many connections were asked for, and the requests that the queue took, the newest first. -/
structure Ledger where
  attempts : Nat
  sent : List Issue

namespace Ledger

/-- A request is sent, and taken or not. -/
def send (v : Ledger) (r : Request) (taken : Bool) : Ledger where
  attempts := (Issue.next v.attempts r).attempt
  sent := if taken then .next v.attempts r :: v.sent else v.sent

lemma send_of_ne (v : Ledger) {r : Request} (hr : ∀ c, r ≠ .connect c) (taken : Bool) :
    v.send r taken = ⟨v.attempts, if taken then ⟨v.attempts, r⟩ :: v.sent else v.sent⟩ := by
  cases r with
  | connect c => exact absurd rfl (hr c)
  | _ => rfl

/-- Surroundings that keep a ledger of the request queue, which is there, and answer anything
else. -/
def surroundings : Surroundings Board Ledger where
  may
    | .sendRequest r, v, taken, v' => v' = v.send r taken
    | .queueExists .requests, v, there, v' => there = true ∧ v' = v
    | _, v, _, v' => v' = v

/-- The calls that send no request. -/
def Unsent : Board.Call → Prop
  | .sendRequest _ => False
  | _ => True

lemma eq_of_unsent {c : Board.Call} {v v' : Ledger} {r : Board.Answer c} (hc : Unsent c)
    (h : surroundings.may c v r v') : v' = v := by
  cases c with
  | sendRequest q => exact hc.elim
  | queueExists q => cases q with
    | requests => exact h.2
    | _ => exact h
  | _ => exact h

lemma suffix_send (v : Ledger) (r : Request) (taken : Bool) : v.sent <:+ (v.send r taken).sent := by
  cases taken with
  | true => exact List.suffix_cons _ _
  | false => exact List.suffix_rfl

/-- Every call can be answered, and takes nothing out of the ledger. -/
lemma answerable (c : Board.Call) (v : Ledger) :
    ∃ r v', surroundings.may c v r v' ∧ v.sent <:+ v'.sent := by
  cases c with
  | sendRequest r => exact ⟨true, v.send r true, rfl, v.suffix_send r true⟩
  | queueExists q => cases q with
    | requests => exact ⟨true, v, ⟨rfl, rfl⟩, List.suffix_rfl⟩
    | _ => exact ⟨true, v, rfl, List.suffix_rfl⟩
  | accessPointAddress => exact ⟨⟨0, 0, 0, 0⟩, v, rfl, List.suffix_rfl⟩
  | _ => exact ⟨default, v, rfl, List.suffix_rfl⟩

end Ledger

/-- A request is the same kind of request on its way, and of the same generation. -/
lemma Transport.queued?_kind {r q : Request} (h : queued? r = some q) :
    q.generation = r.generation ∧ (∀ c, q = .connect c ↔ r = .connect c) ∧
      ∀ g, q = .disconnect g ↔ r = .disconnect g := by
  cases r with
  | publish g topic payload retained =>
    simp only [queued?, Option.ite_none_right_eq_some, Option.some.injEq] at h
    obtain ⟨-, rfl⟩ := h
    simp [Request.generation]
  | _ =>
    simp only [queued?, Option.some.injEq] at h
    subst h
    simp [Request.generation]

/-! ### The ledger of a chronicle -/

namespace Chronicle

/-- The requests of a chronicle that the queue took, as they travel. -/
def sent : Chronicle → List Issue
  | [] => []
  | m :: past =>
    ((m.accepted?.bind Transport.queued?).map (Issue.mk (number (m :: past)))).toList ++ sent past

def ledger (h : Chronicle) : Ledger := ⟨number h, sent h⟩

lemma number_cons_request {r : Request} (hr : ∀ c, r ≠ .connect c) (taken : Bool) (h : Chronicle) :
    number (.made ⟨.request r, taken⟩ :: h) = number h := by
  simp [number, connects_request taken hr]

lemma number_cons_connect (c : ConnectRequest) (taken : Bool) (h : Chronicle) :
    number (.made ⟨.request (.connect c), taken⟩ :: h) = number h + 1 :=
  List.countP_cons_of_pos rfl

lemma sent_cons_of_none {m : Mark} (hm : m.request? = none) (h : Chronicle) :
    sent (m :: h) = sent h := by
  have ha : m.accepted? = none := by simp [Mark.accepted?, hm]
  rw [sent, ha]
  rfl

lemma sent_cons_request {r q : Request} (hq : Transport.queued? r = some q) (taken : Bool)
    (h : Chronicle) : sent (.made ⟨.request r, taken⟩ :: h) =
      if taken then ⟨number (.made ⟨.request r, taken⟩ :: h), q⟩ :: sent h else sent h := by
  cases taken <;> simp [sent, Mark.accepted?, Mark.request?, hq]

lemma ledger_cons_of_none {m : Mark} (hm : m.request? = none) (h : Chronicle) :
    ledger (m :: h) = ledger h := by
  rw [ledger, number_cons_of_none hm, sent_cons_of_none hm, ledger]

lemma ledger_cons_request {r q : Request} (hq : Transport.queued? r = some q) (taken : Bool)
    (h : Chronicle) : ledger (.made ⟨.request r, taken⟩ :: h) = (ledger h).send q taken := by
  obtain ⟨-, hconnect, -⟩ := Transport.queued?_kind hq
  by_cases hr : ∃ c, r = .connect c
  · obtain ⟨c, rfl⟩ := hr
    obtain rfl := (hconnect c).2 rfl
    rw [ledger, sent_cons_request hq, number_cons_connect]
    rfl
  · have hne : ∀ c, r ≠ .connect c := fun c he => hr ⟨c, he⟩
    rw [ledger, sent_cons_request hq, number_cons_request hne,
      Ledger.send_of_ne _ fun c he => hne c ((hconnect c).1 he)]
    rfl

end Chronicle

open Chronicle

namespace Transport

/-- A request that the device makes is entered into the ledger. -/
lemma request_ledger (r : Request) (h : Chronicle) :
    (request r).Ensures Ledger.surroundings
      (fun taken v => v = ledger (.made ⟨.request r, taken⟩ :: h)) (ledger h) := by
  unfold request
  cases hq : queued? r with
  | none =>
    have hr : ∀ c, r ≠ .connect c := by
      rintro c rfl
      cases hq
    simp [ledger, number_cons_request hr, sent, Mark.accepted?, Mark.request?]
  | some q =>
    rintro _ _ ⟨rfl, rfl⟩ taken _ rfl
    have hv := (ledger_cons_request hq taken h).symm
    cases taken with
    | true => exact hv
    | false =>
      rintro _ _ rfl
      exact hv

end Transport

namespace Driver

lemma awaitIdle_unsent (start timeout : UInt32) (n : Nat) :
    (Transport.awaitIdle start timeout n).Confined Ledger.Unsent fun _ => True := by
  induction n with
  | zero => trivial
  | succ n ih => simp [Transport.awaitIdle, Transport.busy, Board.ask, Board.millis, Board.sleep,
      Ledger.Unsent, ih]

lemma lower_unsent (opened : Bool) {c : Hardware.Call} (hc : Silent c) :
    (lower opened c).Confined Ledger.Unsent fun _ => True := by
  cases c with
  | request r => exact hc.elim
  | flush timeout =>
    refine ⟨trivial, fun there => ?_⟩
    cases there with
    | true => exact ⟨trivial, fun start => awaitIdle_unsent start timeout _⟩
    | false => trivial
  | _ =>
    simp [lower, startAccessPoint, startStation, stopRadio, storedLength, storedRead, storedWrite,
      storedRemove, showLight, restart, Board.postEvent, Board.sendEvent, Board.offerSubmission,
      Board.takeSubmission, Board.ask, Board.log, Board.info, Board.error, Ledger.Unsent]

/-- Each call of the device is entered into the ledger as into the chronicle. -/
lemma lower_enters (opened : Bool) (c : Hardware.Call) (h : Chronicle) (v : Ledger)
    (hv : ledger h = v) : (lower opened c).Ensures Ledger.surroundings
      (fun r v' => ∃ h', Chronicle.surroundings.may c h r h' ∧ ledger h' = v') v := by
  by_cases hc : Silent c
  · refine ((lower_unsent opened hc).ensures (K := (· = v)) ?_ rfl).mono ?_
    · rintro c v' r w hcall hw rfl
      exact Ledger.eq_of_unsent hcall hw
    · rintro r _ ⟨-, rfl⟩
      exact ⟨_, rfl, (ledger_cons_of_none (request?_of_silent hc r) h).trans hv⟩
  · obtain rfl := hv
    cases c with
    | request r => exact (Transport.request_ledger r h).mono fun taken v hv => ⟨_, rfl, hv.symm⟩
    | _ => exact absurd trivial hc

end Driver

namespace Chronicle

variable {w : Wording} {h : Chronicle}

lemma Mark.request?_eq_some {m : Mark} {r : Request} {taken : Bool}
    (hm : m.request? = some (r, taken)) : m = .made ⟨.request r, taken⟩ := by
  match m with
  | .made ⟨.request q, ok⟩ =>
    obtain ⟨rfl, rfl⟩ : q = r ∧ ok = taken := by simpa [Mark.request?] using hm
    rfl

lemma lastConnect_sent {c : ConnectRequest} (hc : .connect c ∈ accepted h) :
    Issue.lastConnect (sent h) = some (number h, c) := by
  induction h with
  | nil => cases hc
  | cons m h ih =>
    cases hm : m.request? with
    | none =>
      rw [accepted_cons_of_none hm] at hc
      rw [sent_cons_of_none hm, number_cons_of_none hm, ih hc]
    | some x =>
      obtain ⟨r, taken⟩ := x
      obtain rfl := Mark.request?_eq_some hm
      by_cases hr : ∃ d, r = .connect d
      · obtain ⟨d, rfl⟩ := hr
        rw [accepted_cons_connect] at hc
        cases taken with
        | false => cases hc
        | true =>
          obtain rfl : c = d := by simpa using hc
          rfl
      · have hne : ∀ d, r ≠ .connect d := fun d he => hr ⟨d, he⟩
        rw [accepted_cons_request taken hne, List.mem_append] at hc
        have hc : .connect c ∈ accepted h := by
          refine hc.resolve_right fun hr => hne c ?_
          cases taken <;> simp_all
        rw [number_cons_request hne, ← ih hc]
        cases hq : Transport.queued? r with
        | none => cases taken <;> simp [sent, Mark.accepted?, Mark.request?, hq]
        | some q =>
          obtain ⟨-, hconnect, -⟩ := Transport.queued?_kind hq
          rw [sent_cons_request hq]
          cases taken with
          | false => rfl
          | true => exact Issue.lastConnect_cons_of_ne (fun d he => hne d ((hconnect d).1 he)) _

/-- What has its place in an attempt comes after the connect of that attempt, but for the connect
itself and the disconnect. -/
lemma Due.connected {g : UInt8} {r : Request} (hd : Due w g h r) (hc : ∀ c, r ≠ .connect c)
    (hdis : r ≠ .disconnect g) : w.connect g ∈ accepted h := by
  obtain ⟨reports, hmem⟩ := hd.scripted
  rcases Wording.mem_script.1 hmem with rfl | ha | ⟨x, -, hx⟩ | ho | he
  · exact absurd rfl (hc _)
  · exact (hd.announcement ha).1
  · exact (hd.report x hx.symm).1 _ (by simp [Wording.opening])
  · exact hd.offline ho
  · exact absurd he hdis

lemma Orderly.tail {m : Mark} (ho : Orderly w (m :: h)) : Orderly w h where
  requests r taken past hp := ho.requests r taken past (hp.trans (List.suffix_cons m h))
  script past hp := ho.script past (hp.trans (List.suffix_cons m h))
  leave past hp := ho.leave past (hp.trans (List.suffix_cons m h))
  silence x past hp := ho.silence x past (hp.trans (List.suffix_cons m h))

/-- A request in its place is rightfully sent. -/
lemma Due.rightful {r q : Request} (hq : Transport.queued? r = some q) (taken : Bool)
    (hd : Due w (generation (.made ⟨.request r, taken⟩ :: h)) h r) :
    Issue.Rightful (sent h) ⟨number (.made ⟨.request r, taken⟩ :: h), q⟩ := by
  obtain ⟨hg, hconnect, hdisconnect⟩ := Transport.queued?_kind hq
  obtain ⟨reports, hmem⟩ := hd.scripted
  refine ⟨hg.trans (Wording.generation_of_mem_script hmem), fun herrand => ?_⟩
  have hne : ∀ c, r ≠ .connect c := by
    intro c he
    rw [(hconnect c).2 he] at herrand
    cases herrand
  have hstay : ∀ g, r ≠ .disconnect g := by
    intro g he
    rw [(hdisconnect g).2 he] at herrand
    cases herrand
  rw [number_cons_request hne]
  exact ⟨_, lastConnect_sent (hd.connected hne (hstay _))⟩

/-- All that an orderly chronicle sends is rightful. -/
lemma Orderly.rightful (ho : Orderly w h) {x : Issue} {past : List Issue}
    (hx : x :: past <:+ sent h) : x.Rightful past := by
  induction h with
  | nil => simp [sent] at hx
  | cons m h ih =>
    have ih := ih ho.tail
    cases hm : m.request? with
    | none => exact ih (sent_cons_of_none hm h ▸ hx)
    | some y =>
      obtain ⟨r, taken⟩ := y
      obtain rfl := Mark.request?_eq_some hm
      cases hq : Transport.queued? r with
      | none =>
        refine ih ?_
        cases taken <;> simpa [sent, Mark.accepted?, Mark.request?, hq] using hx
      | some q =>
        rw [sent_cons_request hq] at hx
        cases taken with
        | false => exact ih hx
        | true =>
          rcases List.suffix_cons_iff.1 hx with he | hx
          · obtain ⟨rfl, rfl⟩ := List.cons.inj he
            exact (ho.requests r true h List.suffix_rfl).rightful hq
          · exact ih hx

end Chronicle

namespace Session

/-- The session of a task that keeps a ledger is in order. -/
def Entered (s : Session) (v : Ledger) : Prop := ∃ h, s.InOrder h ∧ ledger h = v

variable {s : Session} {v : Ledger}

lemma Entered.rightful (hs : s.Entered v) {x : Issue} {past : List Issue}
    (hx : x :: past <:+ v.sent) : x.Rightful past := by
  obtain ⟨h, hs, rfl⟩ := hs
  exact hs.orderly.rightful hx

lemma Entered.perform (hs : s.Entered v) (t : Timing) (opened : Bool) (op : Operation) :
    ((s.perform t op).lower (Driver.lower opened)).Ensures Ledger.surroundings Entered v := by
  obtain ⟨h, hs, rfl⟩ := hs
  have hbegun : ledger (.begun op s.state :: h) = ledger h := ledger_cons_of_none rfl h
  refine (Ensures.lower (Driver.lower_enters opened) (perform_inOrder t hs op) hbegun).mono ?_
  rintro s' _ ⟨h', hs', rfl⟩
  exact ⟨_, hs', ledger_cons_of_none rfl h'⟩

lemma configure_entered (c : Config) (opened : Bool) :
    ((({} : Session).configure c).lower (Driver.lower opened)).Ensures Ledger.surroundings
      (fun r v => r.2.Entered v) ⟨0, []⟩ := by
  have hblank : ledger [] = ⟨0, []⟩ := rfl
  refine (Ensures.lower (Driver.lower_enters opened) (configure_inOrder c) hblank).mono ?_
  rintro r _ ⟨h', hs', rfl⟩
  exact ⟨h', hs', rfl⟩

end Session

end DoorControl
