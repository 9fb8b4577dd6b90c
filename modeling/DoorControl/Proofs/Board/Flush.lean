import Mathlib.Logic.Relation
import DoorControl.Board.Driver
import DoorControl.Proofs.Board.Notes

/-!
Waiting for the requests to be done. The device's task looks at the request queue and then at the
mark of the transport's task, and between the two looks the other task goes on. Yet the queue found
empty and then the mark found down show that all is done: what left the queue left it under the
mark, and the mark is down only while nothing is left over.
-/

namespace DoorControl

open Program Noted

/-- The request queue, the oldest request first, and the mark that requests are being carried out,
with all requests that the queue ever took and what the transport's task did so far, the newest
first. -/
structure Backlog where
  waiting : List Request := []
  draining : Bool := false
  accepted : List Request := []
  past : List (Exchange Noted) := []

namespace Backlog

def send (b : Backlog) (r : Request) : Backlog :=
  { b with waiting := b.waiting ++ [r], accepted := r :: b.accepted }

def receive (b : Backlog) : Option Request × Backlog :=
  match b.waiting with
  | [] => (none, b)
  | r :: rest => (some r, { b with waiting := rest })

def keep (b : Backlog) (x : Exchange Noted) : Backlog := { b with past := x :: b.past }

/-- The board with its request queue there. The queue takes what is sent or refuses it, and anything
that has to do with neither the queue nor the mark is answered as it likes. -/
def board : Surroundings Board Backlog where
  may
    | .queueExists .requests, b, there, b' => there = true ∧ b' = b
    | .sendRequest r, b, sent, b' => b' = if sent then b.send r else b
    | .receiveRequest, b, r, b' => (r, b') = b.receive
    | .requestsWaiting, b, n, b' => n = b.waiting.length ∧ b' = b
    | .setDraining on, b, _, b' => b' = { b with draining := on }
    | .draining, b, on, b' => on = b.draining ∧ b' = b
    | _, b, _, b' => b' = b

/-- The board as the transport's task finds it, whose exchanges and notes are kept. -/
def noted : Surroundings Noted Backlog where
  may
    | .board c, b, r, b' => ∃ b₁, board.may c b r b₁ ∧ b' = b₁.keep ⟨Noted.Call.board c, r⟩
    | .finished r, b, u, b' => b' = b.keep ⟨Noted.Call.finished r, u⟩

/-- The calls of a task that takes no requests out and sets no mark. -/
def Offers : Board.Call → Prop
  | .receiveRequest | .setDraining _ => False
  | _ => True

/-- What was accepted and not taken waits, and the mark is where the transport's task left it. -/
structure Fits (b : Backlog) : Prop where
  draining : b.draining = (standing b.past).marked
  accepted : b.accepted = b.waiting.reverse ++ (standing b.past).taken
  tidy : (standing b.past).Tidy

/-- What the transport's task may make of the queue between two calls of the device's task. -/
structure Onward (b b' : Backlog) : Prop where
  accepted : b'.accepted = b.accepted
  past : b.past <:+ b'.past
  fits : b'.Fits

/-- All that the queue took is finished. -/
def Done (b : Backlog) : Prop := b.accepted <:+ (standing b.past).finished

variable {b b' b₁ : Backlog} {c : Board.Call} {r : Board.Answer c}

/-! ### One more call -/

lemma eq_of_apart (h : board.may c b r b') (hc : Apart c) : b' = b := by
  cases c with
  | queueExists q => cases q with
    | requests => exact h.2
    | _ => exact h
  | requestsWaiting | draining => exact h.2
  | sendRequest _ | receiveRequest | setDraining _ => exact hc.elim
  | _ => exact h

lemma Fits.device_call (hf : b.Fits) (hc : Offers c) (h : board.may c b r b') :
    b'.Fits ∧ b'.past = b.past := by
  cases c with
  | sendRequest q =>
    change b' = if r then b.send q else b at h
    split at h
    · subst h
      exact ⟨⟨hf.draining, by simp [send, hf.accepted], hf.tidy⟩, rfl⟩
    · subst h
      exact ⟨hf, rfl⟩
  | receiveRequest | setDraining _ => exact hc.elim
  | _ =>
    obtain rfl := eq_of_apart h trivial
    exact ⟨hf, rfl⟩

lemma Fits.transport_call {c : Noted.Call} {r : Noted.Answer c} (hf : b.Fits) (hc : Takes c)
    (h : noted.may c b r b') (htidy : (standing (⟨c, r⟩ :: b.past)).Tidy) :
    b.Onward b' ∧ b'.past = ⟨c, r⟩ :: b.past := by
  cases c with
  | finished q =>
    subst h
    exact ⟨⟨rfl, List.suffix_cons _ _, hf.draining, hf.accepted, htidy⟩, rfl⟩
  | board c =>
    obtain ⟨b₁, h, rfl⟩ := h
    cases c with
    | sendRequest _ => exact hc.elim
    | setDraining on =>
      obtain rfl := h
      exact ⟨⟨rfl, List.suffix_cons _ _, rfl, hf.accepted, htidy⟩, rfl⟩
    | receiveRequest =>
      change (r, b₁) = b.receive at h
      unfold receive at h
      split at h
      · obtain ⟨rfl, rfl⟩ := Prod.mk.inj h
        exact ⟨⟨rfl, List.suffix_cons _ _, hf.draining, hf.accepted, htidy⟩, rfl⟩
      · rename_i q rest hw
        obtain ⟨rfl, rfl⟩ := Prod.mk.inj h
        have haccepted : b.accepted = rest.reverse ++ q :: (standing b.past).taken := by
          simpa [hw] using hf.accepted
        exact ⟨⟨rfl, List.suffix_cons _ _, hf.draining, haccepted, htidy⟩, rfl⟩
    | _ =>
      obtain rfl := eq_of_apart h trivial
      exact ⟨⟨rfl, List.suffix_cons _ _, hf.draining, hf.accepted, htidy⟩, rfl⟩

/-! ### The two looks -/

lemma Fits.onward (h : b.Fits) : b.Onward b := ⟨rfl, List.suffix_rfl, h⟩

lemma Onward.trans (h : b.Onward b₁) (h' : b₁.Onward b') : b.Onward b' where
  accepted := h'.accepted.trans h.accepted
  past := h.past.trans h'.past
  fits := h'.fits

lemma Done.onward (h : b.Done) (h' : b.Onward b') : b'.Done := by
  rw [Done, h'.accepted]
  exact h.trans (standing_suffix h'.past).2

/-- When the queue was found empty, all had been taken, and when the mark is then found down, all
that was taken is finished. -/
lemma done_of_looks (hf : b.Fits) (hempty : b.waiting = []) (h : b.Onward b')
    (hdown : b'.draining = false) : b'.Done := by
  have htaken : b'.accepted = (standing b.past).taken := by
    rw [h.accepted, hf.accepted, hempty, List.reverse_nil, List.nil_append]
  have hfinished : (standing b'.past).finished = (standing b'.past).taken :=
    h.fits.tidy.even (h.fits.draining ▸ hdown)
  rw [Done, htaken, hfinished]
  exact (standing_suffix h.past).1

/-- All that was taken out of the queue was put into it. -/
lemma Done.all (h : b.Done) (hf : b.Fits) :
    (standing b.past).taken = b.accepted ∧ (standing b.past).finished = b.accepted := by
  have htaken : (standing b.past).taken <:+ b.accepted := hf.accepted ▸ List.suffix_append _ _
  have hfinished : (standing b.past).finished = b.accepted :=
    (hf.tidy.suffix.trans htaken).eq_of_length_le h.length_le
  exact ⟨htaken.eq_of_length_le (hfinished ▸ hf.tidy.suffix.length_le), hfinished⟩

lemma awaitIdle_done (start timeout : UInt32) (n : Nat) (b : Backlog) :
    (Transport.awaitIdle start timeout n).Ensures (board.amid Onward)
      (fun ok b' => ok = true → b'.Done) b := by
  induction n generalizing b with
  | zero => exact nofun
  | succ n ih =>
    have hagain (b : Backlog) : (do
        if timeout ≤ (← Board.millis) - start then pure false
        else
          Board.sleep 10
          Transport.awaitIdle start timeout n : Program Board Bool).Ensures (board.amid Onward)
        (fun ok b' => ok = true → b'.Done) b := by
      rintro now b₁ -
      change (ite _ _ _ : Program Board Bool).Ensures _ _ _
      split
      · exact nofun
      · exact fun _ b₂ _ => ih b₂
    rintro waiting b₁ ⟨_, hfirst, rfl, rfl⟩
    change ((ite _ _ _ : Program Board Bool) >>= _).Ensures _ _ _
    split
    · exact hagain b₁
    · rename_i hnone
      have hempty : b₁.waiting = [] := List.length_eq_zero_iff.1 (Nat.eq_zero_of_not_pos hnone)
      rintro on b₂ ⟨_, hsecond, rfl, rfl⟩
      cases hdown : b₂.draining with
      | true => exact hagain b₂
      | false => exact fun _ => done_of_looks hfirst.fits hempty hsecond hdown

/-- Whatever the transport's task does in the meantime, a flush that succeeds leaves all done. -/
lemma flush_done (timeout : UInt32) (b : Backlog) :
    (Transport.flush timeout).Ensures (board.amid Onward) (fun ok b' => ok = true → b'.Done) b := by
  rintro there b₁ ⟨_, -, rfl, rfl⟩ start b₂ -
  exact awaitIdle_done start timeout _ b₂

/-! ### The calls of the device's task -/

lemma request_offers (r : Request) : (Transport.request r).Confined Offers fun _ => True := by
  unfold Transport.request
  split <;> simp [Transport.enqueue, Board.ask, Offers]

lemma awaitIdle_offers (start timeout : UInt32) (n : Nat) :
    (Transport.awaitIdle start timeout n).Confined Offers fun _ => True := by
  induction n with
  | zero => trivial
  | succ n ih =>
    simp [Transport.awaitIdle, Transport.busy, Board.millis, Board.sleep, Board.ask, Offers, ih]

lemma flush_offers (timeout : UInt32) :
    (Transport.flush timeout).Confined Offers fun _ => True := by
  simp [Transport.flush, Board.millis, Board.ask, Offers, awaitIdle_offers]

/-- Nothing that the device asks of its hardware is the business of the transport's task. -/
lemma lower_offers (opened : Bool) (c : Hardware.Call) :
    (Driver.lower opened c).Confined Offers fun _ => True := by
  cases c with
  | request r => exact request_offers r
  | flush timeout => exact flush_offers timeout
  | _ =>
    simp [Driver.lower, Driver.startAccessPoint, Driver.startStation, Driver.stopRadio,
      Driver.showLight, Driver.storedLength, Driver.storedRead, Driver.storedWrite,
      Driver.storedRemove, Driver.restart, Board.postEvent, Board.sendEvent, Board.offerSubmission,
      Board.takeSubmission, Board.info, Board.error, Board.log, Board.ask, Offers]

/-! ### Two tasks -/

/-- The two tasks, each with what it still has to do, and the queue between them. -/
structure Tasks where
  device : Program Board Bool
  transport : Program Noted Transport
  backlog : Backlog

namespace Tasks

/-- One of the tasks makes its next call, or the transport's task begins its next round. -/
inductive Step (burst : Nat) : Tasks → Tasks → Prop
  | device {c : Board.Call} {next : Board.Answer c → Program Board Bool}
      {q : Program Noted Transport} {b b' : Backlog} {r : Board.Answer c}
      (h : board.may c b r b') : Step burst ⟨.call c next, q, b⟩ ⟨next r, q, b'⟩
  | transport {p : Program Board Bool} {c : Noted.Call}
      {next : Noted.Answer c → Program Noted Transport} {b b' : Backlog} {r : Noted.Answer c}
      (h : noted.may c b r b') : Step burst ⟨p, .call c next, b⟩ ⟨p, next r, b'⟩
  | serve {p : Program Board Bool} {t : Transport} {b : Backlog} :
      Step burst ⟨p, .done t, b⟩ ⟨p, t.serveNoted burst, b⟩

/-- Both tasks at their start, nothing being in the queue. The device's task has a program to run
and then a flush. -/
def start {α : Type} (p : Program Board α) (timeout : UInt32) (t : Transport) : Tasks where
  device := p >>= fun _ => Transport.flush timeout
  transport := .done t
  backlog := {}

/-- Each task is on a way that ends well and keeps to its own side of the queue. -/
structure Sound (w : Tasks) : Prop where
  fits : w.backlog.Fits
  device : w.device.Ensures (board.amid Onward) (fun ok b => ok = true → b.Done) w.backlog
  offers : w.device.Confined Offers fun _ => True
  transport : w.transport.Ensures (.history Noted) (fun _ => Rested false) w.backlog.past
  takes : w.transport.Confined Takes fun _ => True

lemma Sound.start {α : Type} {p : Program Board α} (hp : p.Confined Offers fun _ => True)
    (timeout : UInt32) (t : Transport) : (start p timeout t).Sound where
  fits := ⟨rfl, rfl, Orderly.nil.tidy⟩
  device := (ensures_true p _).bind fun _ b _ => flush_done timeout b
  offers := hp.bind fun _ _ => flush_offers timeout
  transport := ⟨.nil, rfl, rfl⟩
  takes := trivial

lemma Sound.step {burst : Nat} {w w' : Tasks} (hw : w.Sound) (h : Step burst w w') : w'.Sound := by
  cases h with
  | @device c next q b b' r h =>
    obtain ⟨hfits, hpast⟩ := hw.fits.device_call hw.offers.1 h
    have hnext := hw.device r b' ⟨b, hw.fits.onward, h⟩
    exact ⟨hfits, hnext, hw.offers.2 r, hpast ▸ hw.transport, hw.takes⟩
  | @transport p c next b b' r h =>
    have hnext := hw.transport r _ rfl
    obtain ⟨honward, hpast⟩ := hw.fits.transport_call hw.takes.1 h (tidy_of_ensures hnext)
    have hdevice : p.Ensures (board.amid Onward) (fun ok b => ok = true → b.Done) b' :=
      Ensures.amid (R := Onward) (fun _ _ _ => Onward.trans)
        (fun _ _ _ ho hd hok => (hd hok).onward ho) hw.device honward
    exact ⟨honward.fits, hdevice, hw.offers, hpast ▸ hnext, hw.takes.2 r⟩
  | @serve p t b =>
    exact ⟨hw.fits, hw.device, hw.offers, Transport.serveNoted_rested hw.transport burst,
      Transport.serveNoted_takes burst t⟩

lemma Sound.run {burst : Nat} {w w' : Tasks} (hw : w.Sound)
    (h : Relation.ReflTransGen (Step burst) w w') : w'.Sound := by
  induction h with
  | refl => exact hw
  | tail _ h ih => exact ih.step h

/-- **Flush is a barrier**: whatever the device's task did before, whatever the queue took and
refused of its requests and however the calls of the two tasks come between each other, once a flush
has succeeded, the transport's task has taken every request that the queue ever took, in order, and
has finished carrying it out, for bursts of any length. The rounds that say so by their notes are
those of the transport's task. -/
theorem flush_is_barrier {α : Type} (p : Program Hardware α) (opened : Bool) (timeout : UInt32)
    (t : Transport) (burst : Nat) {w : Tasks}
    (hw : Relation.ReflTransGen (Step burst) (start (p.lower (Driver.lower opened)) timeout t) w)
    (hdone : w.device = .done true) :
    (standing w.backlog.past).taken = w.backlog.accepted ∧
      (standing w.backlog.past).finished = w.backlog.accepted ∧
      ∀ t : Transport,
        (t.serveNoted QueueName.requests.capacity).unnoted = t.serve Board.postEvent := by
  have hsound : w.Sound :=
    (Sound.start (confined_lower (lower_offers opened) p) timeout t).run hw
  have hall : w.backlog.Done := by
    have hdevice := hsound.device
    rw [hdone] at hdevice
    exact hdevice rfl
  obtain ⟨htaken, hfinished⟩ := hall.all hsound.fits
  exact ⟨htaken, hfinished, Transport.serveNoted_unnoted⟩

/-- A request is sent and taken before the flush looks, which finds the queue empty and the mark up,
and succeeds only after the round. -/
theorem flush_sees_request_through :
    ∃ w, Relation.ReflTransGen (Step QueueName.requests.capacity)
        (start ((Hardware.request (.disconnect 0)).lower (Driver.lower true)) 500 {}) w ∧
      w.device = .done true ∧ w.backlog.accepted = [.disconnect 0] ∧
      (standing w.backlog.past).taken = w.backlog.accepted ∧
      (standing w.backlog.past).finished = w.backlog.accepted ∧
      ∀ t : Transport,
        (t.serveNoted QueueName.requests.capacity).unnoted = t.serve Board.postEvent := by
  have hrun : ∃ past, Relation.ReflTransGen (Step QueueName.requests.capacity)
      (start ((Hardware.request (.disconnect 0)).lower (Driver.lower true)) 500 {})
      ⟨.done true, .done {}, [], false, [.disconnect 0], past⟩ := by
    apply Exists.intro
    refine .head (.device (r := true) ⟨rfl, rfl⟩) ?_
    refine .head (.device (r := true) rfl) ?_
    refine .head .serve ?_
    refine .head (.transport (r := true) ⟨_, ⟨rfl, rfl⟩, rfl⟩) ?_
    refine .head (.transport (r := ()) ⟨_, rfl, rfl⟩) ?_
    refine .head (.transport (r := some (.disconnect 0)) ⟨_, by exact rfl, rfl⟩) ?_
    -- the flush looks and goes to sleep
    refine .head (.device (r := true) ⟨rfl, rfl⟩) ?_
    refine .head (.device (r := (0 : UInt32)) rfl) ?_
    refine .head (.device (r := (0 : Nat)) ⟨rfl, rfl⟩) ?_
    refine .head (.device (r := true) ⟨rfl, rfl⟩) ?_
    refine .head (.device (r := (0 : UInt32)) rfl) ?_
    refine .head (.device (r := ()) rfl) ?_
    -- the client was not connected, so that there is nothing to close
    refine .head (.transport (r := false) ⟨_, rfl, rfl⟩) ?_
    refine .head (.transport (r := ()) rfl) ?_
    refine .head (.transport (r := none) ⟨_, by exact rfl, rfl⟩) ?_
    -- the flush looks again
    refine .head (.device (r := (0 : Nat)) ⟨rfl, rfl⟩) ?_
    refine .head (.transport (r := ()) ⟨_, rfl, rfl⟩) ?_
    exact .head (.device (r := false) ⟨rfl, rfl⟩) .refl
  obtain ⟨past, hrun⟩ := hrun
  exact ⟨_, hrun, rfl, rfl, flush_is_barrier _ true 500 {} _ hrun rfl⟩

end Tasks

end Backlog

end DoorControl
