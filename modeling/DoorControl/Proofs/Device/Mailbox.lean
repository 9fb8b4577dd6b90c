import DoorControl.Console.Command
import DoorControl.Proofs.Device.Submission

/-!
Where submissions are handed in: a mailbox with room for one, and the event queue that tells of it.
A submission goes into the mailbox first. When the queue has no room for its event then, the answer
is no, but the submission stays in the mailbox, and the event of an earlier one has it applied.
-/

namespace DoorControl

open Bytes Program

/-! ### The desk -/

/-- The event queue, the oldest event first, and the mailbox. -/
structure Desk where
  capacity : Nat
  queue : List Event := []
  /-- The mailbox takes what it is offered. -/
  accepting : Bool := true
  mailbox : Option Submission := none

namespace Desk

/-- There is room for one more event. -/
def room (k : Desk) : Bool := k.queue.length < k.capacity

def post (k : Desk) (e : Event) : Desk := if k.room then { k with queue := k.queue ++ [e] } else k

/-- What was in the mailbox is lost when it takes another submission. -/
def offer (k : Desk) (s : Submission) : Desk :=
  if k.accepting then { k with mailbox := some s } else k

/-- What the desk answers, and what becomes of it. -/
def Answers : (c : Hardware.Call) → Desk → Hardware.Answer c → Desk → Prop
  | .post e, k, ok, k' => ok = k.room ∧ k' = k.post e
  | .offer s, k, ok, k' => ok = k.accepting ∧ k' = k.offer s
  | .take, k, s, k' => s = k.mailbox ∧ k' = { k with mailbox := none }
  | _, k, _, k' => k' = k

def surroundings : Surroundings Hardware Desk := ⟨Answers⟩

variable (k : Desk) (s : Submission)

/-- The event that tells of a submission. -/
def told (now : Clock) : Event := { kind := .configSubmitted, time := now }

lemma offer_room : (k.offer s).room = k.room := by
  unfold offer
  split <;> rfl

/-- A submission that is offered leaves no trace if the mailbox does not take it, or has it. -/
lemma offer_eq : k.offer s = k ↔ k.accepting = false ∨ k.mailbox = some s := by
  obtain ⟨capacity, queue, accepting, mailbox⟩ := k
  cases accepting with
  | true => simp [offer, eq_comm]
  | false => simp [offer]

/-- How a submission is answered and what it leaves: nothing of it is in the queue after a no, but
it is in the mailbox all the same. -/
structure Answered (now : Clock) (ok : Bool) (k' : Desk) : Prop where
  answer : ok = (k.accepting && k.room)
  accepted : ok = true → k' = (k.offer s).post (told now)
  refused : ok = false → k' = k.offer s
  /-- A refused submission leaves no trace in these cases only. -/
  trace : ok = false → (k' = k ↔ k.accepting = false ∨ k.mailbox = some s)

end Desk

open Desk

namespace Device

lemma submit_answered (k : Desk) (s : Submission) (now : Clock) :
    (submit s now).Ensures surroundings (k.Answered s now) k := by
  rintro _ _ ⟨rfl, rfl⟩
  cases ha : k.accepting with
  | false => exact ⟨by rw [ha]; rfl, nofun, fun _ => rfl, fun _ => k.offer_eq s⟩
  | true =>
    rintro _ _ ⟨rfl, rfl⟩
    have hfull (h : (k.offer s).room = false) : (k.offer s).post (told now) = k.offer s := by
      unfold Desk.post
      rw [if_neg (by simp [h])]
    refine ⟨by rw [ha, k.offer_room s]; rfl, fun _ => rfl, hfull, fun h => ?_⟩
    change (k.offer s).post (told now) = k ↔ _
    rw [hfull h]
    exact k.offer_eq s

/-- The configuration line of the console submits the fields that it gives. -/
lemma command_config (d : Device) {line fields : Bytes} (now : Clock)
    (hline : Command.ofLine line = .config fields) : d.command line now =
      match Fields.read fields with
      | (some e, _) => pure (.configRejected e)
      | (none, s) => submit s now >>= fun ok => pure (if ok then .configAccepted else .busy) := by
  unfold command
  rw [hline]
  simp only [Command.run]
  rcases Fields.read fields with ⟨_ | e, s⟩
  · refine congrArg (submit s now >>= ·) (funext fun ok => ?_)
    cases ok <;> rfl
  · rfl

/-! ### The mailbox in the life of a device -/

/-- The calls that leave the mailbox alone. -/
def Aside : Hardware.Call → Prop
  | .offer _ | .take => False
  | _ => True

lemma aside_of {A : Hardware.Call → Prop} (hoffer : ∀ s, ¬A (.offer s)) (htake : ¬A .take)
    (c : Hardware.Call) (hc : A c) : Aside c := by
  cases c with
  | offer s => exact hoffer s hc
  | take => exact htake hc
  | _ => trivial

lemma tick_aside (d : Device) (now : Clock) : (d.tick now).Confined Aside fun _ => True := by
  cases hr : d.rebootPending with
  | true =>
    rw [tick_pending now hr]
    trivial
  | false =>
    rw [tick_eq now hr]
    have hsample : (d.strike.sample now).Confined Aside (·.lock = d.strike.lock) :=
      d.strike.sample_confined now (aside_of nofun nofun) (fun _ => trivial) fun _ _ => trivial
    refine hsample.bind fun strike _ => ⟨trivial, fun high => ?_⟩
    refine (d.button.tick_confined _ _ _).within (aside_of nofun nofun) fun button _ => ?_
    refine (d.link.update_confined _ _).within (aside_of nofun nofun) fun link _ => ?_
    refine (Session.update_confined _ _ rfl _).within (aside_of nofun nofun) fun session _ => ?_
    refine (d.indicator.update_confined _ _).within (aside_of nofun nofun) fun indicator _ => ?_
    trivial

lemma reboot_aside (d : Device) (why : RebootReason) :
    (d.reboot why).Confined Aside fun _ => True := by
  unfold reboot
  split
  · trivial
  · exact ⟨trivial, fun _ => ⟨trivial, fun _ => trivial⟩⟩

lemma goOffline_aside (d : Device) : d.goOffline.Confined Aside fun _ => True := by
  refine (Session.shutdown_confined d.timing rfl).within (aside_of nofun nofun) fun session _ => ?_
  refine d.link.shutdown_confined.within (aside_of nofun nofun) fun link _ => ?_
  trivial

lemma factoryReset_aside (d : Device) (source : UInt8) :
    (d.factoryReset source).Confined Aside fun _ => True := by
  refine ⟨trivial, fun _ => d.goOffline_aside.bind fun d' _ => ?_⟩
  refine (eraseWithin_confined _ _).within (aside_of nofun nofun) fun erased _ => ?_
  cases erased with
  | true => exact reboot_aside _ _
  | false => exact ⟨trivial, fun _ => reboot_aside _ _⟩

lemma commandLock_aside (d : Device) (arg : UInt8) :
    (d.commandLock arg).Confined Aside fun _ => True := by
  have hset : (d.strike.set ⟨arg⟩ d.now).Confined Aside (·.lock = ⟨arg⟩) :=
    d.strike.set_confined d.now _ (fun _ _ => trivial) (fun _ => trivial) trivial
  unfold commandLock
  split
  · exact ⟨trivial, fun _ => trivial⟩
  · exact hset.bind fun _ _ => trivial

lemma publishState_aside (d : Device) : d.publishState.Confined Aside fun _ => True := by
  refine (d.session.publish_confined _ _).within (aside_of nofun nofun) fun session _ => ?_
  trivial

lemma conclude_aside (d : Device) : d.conclude.Confined Aside fun _ => True := by
  have hrefresh : (d.refresh d.now).Confined Aside fun _ => True := by
    refine (d.indicator.apply_confined _ _).within (aside_of nofun nofun) fun r _ => ?_
    trivial
  unfold conclude
  split
  · trivial
  · exact hrefresh.bind fun _ _ => trivial

lemma react_aside (d : Device) {e : Event} (he : e.kind ≠ .configSubmitted) :
    (d.react e).Confined Aside fun _ => True := by
  unfold react
  cases hk : e.kind with
  | configSubmitted => exact absurd hk he
  | doorChanged => exact ⟨trivial, fun _ => publishState_aside _⟩
  | lockChanged => exact ⟨trivial, fun _ => publishState_aside _⟩
  | lockCommand => exact commandLock_aside d e.arg
  | externalLockCommand => exact commandLock_aside d e.arg
  | resetRequested => exact factoryReset_aside d e.arg
  | linkChanged => exact ⟨trivial, fun _ => trivial⟩
  | sessionChanged => exact ⟨trivial, fun _ => trivial⟩
  | unknown _ => trivial
  | _ =>
    refine (Session.handle_confined d.timing d.now rfl e).within (aside_of nofun nofun)
      fun session _ => ?_
    trivial

/-- A submission is taken before anything else, and nothing is taken or offered afterwards. -/
lemma applySubmission_takes (d : Device) : ∃ f : Option Submission → Program Hardware Device,
    d.applySubmission = Hardware.take >>= f ∧ ∀ m, (f m).Confined Aside fun _ => True := by
  refine ⟨_, rfl, fun m => ?_⟩
  cases m with
  | none => exact ⟨trivial, fun _ => trivial⟩
  | some s =>
    dsimp only
    split
    · exact ⟨trivial, fun _ => trivial⟩
    refine (Store.save_confined _).within (aside_of nofun nofun) fun e _ => ?_
    cases e with
    | some e => exact ⟨trivial, fun _ => trivial⟩
    | none => exact d.goOffline_aside.bind fun d' _ => d'.reboot_aside _

/-- The operation hands a submission in. -/
def Step.submits : Step → Bool
  | .submit _ _ => true
  | _ => false

lemma act_aside (d : Device) {x : Step} (hx : x.submits = false)
    (hhandle : ∀ e, x = .handle e → d.rebootPending = false → e.kind ≠ .configSubmitted) :
    (d.act x).Confined Aside fun _ => True := by
  cases x with
  | tick now => exact d.tick_aside now
  | handle e =>
    cases hr : d.rebootPending with
    | true =>
      rw [act, handle_pending hr]
      trivial
    | false =>
      rw [act, handle_eq hr]
      refine (((d.react_aside (hhandle e rfl hr)).bind fun d _ => d.conclude_aside)).bind ?_
      exact fun _ _ => trivial
  | requestLock l now => exact ⟨trivial, fun _ => trivial⟩
  | submit s now => cases hx
  | requestReset now => exact ⟨trivial, fun _ => trivial⟩

end Device

/-! ### What is taken -/

namespace Submission

/-- A mailbox, and the exchanges so far, the newest first. -/
abbrev Box := Option Submission × List (Exchange Hardware)

def box : Surroundings Hardware Box := mailbox.both (.history Hardware)

/-- What was taken out of the mailbox, the newest first. -/
def taken (h : List (Exchange Hardware)) : List (Option Submission) :=
  h.filterMap fun
    | ⟨.take, m⟩ => some m
    | _ => none

/-- What becomes of a mailbox with `held` in it that is asked some times and offered nothing: it has
that the first time, and nothing later on. -/
def Served (held : Option Submission) : Nat → Box → Prop
  | 0, w => w.1 = held ∧ taken w.2 = []
  | n + 1, w => w.1 = none ∧ taken w.2 = List.replicate n none ++ [held]

variable {held : Option Submission} {n : Nat} {w : Box}

lemma Served.of_eq (h : Served held n w) {v : Box} (hm : v.1 = w.1) (ht : taken v.2 = taken w.2) :
    Served held n v := by
  cases n with
  | zero => exact ⟨hm.trans h.1, ht.trans h.2⟩
  | succ n => exact ⟨hm.trans h.1, ht.trans h.2⟩

lemma Served.take (h : Served held n w) :
    Served held (n + 1) (none, ⟨.take, w.1⟩ :: w.2) := by
  have htaken : taken (⟨.take, w.1⟩ :: w.2) = w.1 :: taken w.2 := List.filterMap_cons_some rfl
  refine ⟨rfl, ?_⟩
  cases n with
  | zero => rw [htaken, h.1, h.2, List.replicate_zero, List.nil_append]
  | succ n => rw [htaken, h.1, h.2, List.replicate_succ, List.cons_append]

lemma Served.aside (h : Served held n w) {α : Type} {p : Program Hardware α} {post : α → Prop}
    (hp : p.Confined Device.Aside post) :
    p.Ensures box (fun _ w' => Served held n w') w := by
  refine (hp.ensures (K := Served held n) ?_ h).mono fun _ _ h => h.2
  rintro c w r w' hc ⟨hm, hh⟩ h
  refine h.of_eq ?_ ?_
  · cases c with
    | offer s => exact hc.elim
    | take => exact hc.elim
    | _ => exact hm
  · rw [show w'.2 = ⟨c, r⟩ :: w.2 from hh]
    refine List.filterMap_cons_none ?_
    cases c with
    | take => exact hc.elim
    | _ => rfl

end Submission

namespace Life

open Device Submission

/-- How many submissions were announced to the device. -/
def submissions (l : Life) : Nat := l.handled.countP fun e => e.kind = .configSubmitted

variable {l : Life} {held : Option Submission} {w : Box}

lemma handle_served {d : Device} {n : Nat} (h : Served held n w) (hr : d.rebootPending = false)
    {e : Event} (he : e.kind = .configSubmitted) :
    (d.act (.handle e)).Ensures box (fun _ w' => Served held (n + 1) w') w := by
  obtain ⟨f, hf, hrest⟩ := d.applySubmission_takes
  have hreact : d.react e = Hardware.take >>= f := by
    rw [← hf]
    simp only [react, he]
  rw [act, handle_eq hr, hreact]
  rintro m w' ⟨⟨rfl, hw⟩, hh⟩
  have hw' : w' = (none, ⟨.take, w.1⟩ :: w.2) := Prod.ext hw hh
  subst hw'
  have hconclude : (f w.1 >>= conclude >>= fun r => pure r.2).Confined Aside fun _ => True :=
    ((hrest w.1).bind fun d _ => d.conclude_aside).bind fun _ _ => trivial
  exact h.take.aside hconclude

lemma step_served (h : Served held l.submissions w) {x : Step} (hx : x.submits = false) :
    (l.step x).Ensures box (fun l' w' => Served held l'.submissions w') w := by
  by_cases hsub : ∃ e, x = .handle e ∧ l.device.rebootPending = false ∧ e.kind = .configSubmitted
  · obtain ⟨e, rfl, hr, he⟩ := hsub
    have hcount (d : Device) : submissions { l with
        device := d
        handled := l.handledAfter (.handle e) } = l.submissions + 1 := by
      simp [submissions, handledAfter, hr, he]
    refine (handle_served h hr he).bind fun d w' h' => ?_
    rw [pure_eq, ensures_done, hcount]
    exact h'
  · have hcount (d : Device) : submissions { l with device := d, handled := l.handledAfter x } =
        l.submissions := by
      cases x with
      | handle e =>
        cases hr : l.device.rebootPending with
        | true => simp [submissions, handledAfter, hr]
        | false =>
          have he : e.kind ≠ .configSubmitted := fun he => hsub ⟨e, rfl, hr, he⟩
          simp [submissions, handledAfter, hr, he]
      | _ => rfl
    have haside := l.device.act_aside hx fun e he hr hk => hsub ⟨e, he, hr, hk⟩
    refine (h.aside haside).bind fun d w' h' => ?_
    rw [pure_eq, ensures_done, hcount]
    exact h'

lemma run_served (steps : List Step) (hsteps : ∀ x ∈ steps, x.submits = false)
    (h : Served held l.submissions w) :
    (l.run steps).Ensures box (fun l' w' => Served held l'.submissions w') w := by
  induction steps generalizing l w with
  | nil => exact h
  | cons x steps ih =>
    rw [List.forall_mem_cons] at hsteps
    exact (step_served h hsteps.1).bind fun l' w' h' => ih hsteps.2 h'

end Life

/-! ### Main result -/

namespace Device

/-- **A refused submission stays**: it is answered with a no when the mailbox or the queue refuses
it, on the console as well, and then leaves nothing in the queue; but it leaves itself in a mailbox
that takes submissions, in the place of an earlier one. Until another one is handed in, what the
mailbox has then is what the first event to announce a submission takes, and nobody else does. -/
theorem refused_submission_stays (d : Device) (s : Submission) (now : Clock) (k : Desk) :
    (submit s now).Ensures surroundings (k.Answered s now) k ∧
    (∀ line fields, Command.ofLine line = .config fields →
      (d.command line now).Ensures surroundings (fun reply k' =>
        match Fields.read fields with
        | (some e, _) => reply = .configRejected e ∧ k' = k
        | (none, s) => (reply = .configAccepted ∨ reply = .busy) ∧
            k.Answered s now reply.accepted k') k) ∧
    ∀ loaded steps, (∀ x ∈ steps, Step.submits x = false) →
      (Life.run { device := d, loaded } steps).Ensures Submission.box
        (fun l w => Submission.Served (k.offer s).mailbox l.submissions w)
        ((k.offer s).mailbox, []) := by
  refine ⟨submit_answered k s now, fun line fields hline => ?_, fun loaded steps hsteps => ?_⟩
  · rw [d.command_config now hline]
    rcases Fields.read fields with ⟨_ | e, s⟩
    · refine (submit_answered k s now).bind fun ok k' h => ?_
      cases ok with
      | true => exact ⟨.inl rfl, h⟩
      | false => exact ⟨.inr rfl, h⟩
    · exact ⟨rfl, rfl⟩
  · exact Life.run_served steps hsteps ⟨rfl, rfl⟩

/-- An earlier submission is lost to one that was refused. -/
theorem earlier_submission_lost : ¬∀ (k : Desk) (s : Submission), (submit s 0).Ensures surroundings
    (fun ok k' => ok = false → k'.mailbox = k.mailbox) k := by
  intro h
  have hlost := h { capacity := 0, mailbox := some { hasPort := true } } {}
  have hrefused := hlost true _ ⟨rfl, rfl⟩ false _ ⟨rfl, rfl⟩ rfl
  cases hrefused

end Device

end DoorControl
