import DoorControl.Proofs.Board.Deeds

/-!
How the transport's task makes known that a connection is gone. It finds that out once, when it looks
after the connection or when a request of the attempt cannot be done, and then posts an event or,
when the event queue refuses that, writes a log line and leaves it at that.
-/

namespace DoorControl

open Bytes Program

/-- An event that ends the announced attempt of a generation. -/
def Event.Alarms (e : Event) (g : UInt8) : Prop :=
  e.arg = g ∧ (e.kind = .transportLost ∨ e.kind = .publishFailed)

namespace Deed

/-- A connect is taken, with which a new attempt begins. -/
def connects : Deed → Bool
  | took ⟨_, .connect _⟩ => true
  | _ => false

/-- The event that was put into the event queue. -/
def posted? : Deed → Option Event
  | called ⟨.sendEvent e, sent⟩ => if sent then some e else none
  | called ⟨.sendEventFromInterrupt e, sent⟩ => if sent.1 then some e else none
  | _ => none

/-- The log line of an event that the event queue refused. -/
def dropped (k : EventKind) : Deed :=
  called ⟨.log (Log.Entry.line ⟨.warning, some Transport.tag,
    ascii "event queue full, " ++ k.name ++ ascii " dropped"⟩), ()⟩

/-- The deeds since the last connect was taken, the newest first. -/
def present : List Deed → List Deed
  | [] => []
  | d :: past => if d.connects then [] else d :: present past

/-- A request of the present attempt was taken that needs a connection. -/
def Busy (past : List Deed) : Prop :=
  ∃ x ∈ taken (present past), x.request.errand?.isSome

/-- A disconnect was taken in the present attempt. -/
def Released (past : List Deed) : Prop :=
  ∃ x ∈ taken (present past), ∃ g, x.request = .disconnect g

/-- In the present attempt, with requests of it taken before, an alarm was put into the event
queue. -/
def Warned (g : UInt8) : List Deed → Prop
  | [] => False
  | d :: past => d.connects = false ∧
    ((∃ e, d.posted? = some e ∧ e.Alarms g ∧ Busy past) ∨ Warned g past)

/-- In the present attempt, the log says that an alarm was dropped. -/
def Dropped (past : List Deed) : Prop :=
  dropped .transportLost ∈ present past ∨ dropped .publishFailed ∈ present past

variable {g : UInt8} {past : List Deed} {y : Exchange Board} {x : Issue}

/-! ### One more deed -/

lemma Busy.cons (hb : Busy past) {d : Deed} (hd : d.connects = false) : Busy (d :: past) := by
  obtain ⟨x, hx, he⟩ := hb
  refine ⟨x, ?_, he⟩
  rw [present, if_neg (by simp [hd])]
  cases d with
  | took y => exact List.mem_cons_of_mem _ hx
  | called y => exact hx

lemma Busy.called (hb : Busy past) : Busy (called y :: past) := hb.cons rfl

/-- A warning has requests of its attempt behind it. -/
lemma Warned.busy (hw : Warned g past) : Busy past := by
  induction past with
  | nil => exact hw.elim
  | cons d past ih =>
    obtain ⟨hd, ⟨e, -, -, hb⟩ | hw⟩ := hw
    · exact hb.cons hd
    · exact (ih hw).cons hd

lemma Released.called (hr : Released past) : Released (called y :: past) := hr

lemma Warned.called (hw : Warned g past) : Warned g (called y :: past) := ⟨rfl, .inr hw⟩

lemma Dropped.called (hd : Dropped past) : Dropped (called y :: past) :=
  hd.imp (List.mem_cons_of_mem _) (List.mem_cons_of_mem _)

lemma present_sublist : (present past).Sublist past := by
  induction past with
  | nil => exact List.Sublist.refl _
  | cons d past ih =>
    rw [present]
    split
    · exact List.nil_sublist _
    · exact ih.cons_cons d

lemma taken_of_present (hx : x ∈ taken (present past)) : x ∈ taken past :=
  (present_sublist.filterMap issue?).subset hx

lemma present_took (hx : ∀ c, x.request ≠ .connect c) :
    present (took x :: past) = took x :: present past := by
  obtain ⟨n, r⟩ := x
  cases r with
  | connect c => exact absurd rfl (hx c)
  | _ => rfl

/-- What is taken and needs a connection belongs to the attempt. -/
lemma busy_took (he : x.request.errand?.isSome) : Busy (took x :: past) := by
  have hx : ∀ c, x.request ≠ .connect c := fun c hc => by simp [hc, Request.errand?] at he
  refine ⟨x, ?_, he⟩
  rw [present_took hx]
  exact List.mem_cons_self

lemma released_took {n : Nat} : Released (took ⟨n, .disconnect g⟩ :: past) :=
  ⟨_, List.mem_cons_self, g, rfl⟩

lemma not_busy_connect {n : Nat} {c : ConnectRequest} : ¬Busy (took ⟨n, .connect c⟩ :: past) := by
  simp [Busy, present, connects, taken]

end Deed

open Deed

namespace Transport

/-- A connection that the present attempt counts on is there, or it was given back, or that it is
not there was made known. -/
def Loud (t : Transport) (past : List Deed) : Prop :=
  t.connected = false → Busy past → Released past ∨ Warned t.generation past ∨ Dropped past

variable {t : Transport} {past : List Deed} {α : Type}

lemma loud_of_connected (hup : t.connected = true) : t.Loud past :=
  fun hdown => by simp [hup] at hdown

lemma Loud.called (hl : t.Loud past) (y : Exchange Board) : t.Loud (called y :: past) :=
  fun hdown hb => (hl hdown hb).imp Released.called (Or.imp Warned.called Dropped.called)

/-- What any call leaves as it is outlasts a program that takes no requests. -/
lemma called_ensures {K : List Deed → Prop} (hK : ∀ y past, K past → K (called y :: past))
    {p : Program Board α} {post : α → Prop} (hp : p.Confined Quiet post) (hk : K past) :
    p.Ensures surroundings (fun a past' => post a ∧ K past') past := by
  refine hp.ensures ?_ hk
  rintro c past r _ hc hr hk
  obtain rfl := eq_of_quiet hc hr
  exact hK _ past hk

/-! ### Reports -/

lemma postEvent_warned {e : Event} {g : UInt8} (he : e.Alarms g) (hb : Busy past) :
    (Board.postEvent e).Ensures surroundings
      (fun ok past' => Busy past' ∧ (ok = true → Warned g past')) past := by
  have hwarned {y : Exchange Board} {past : List Deed} (hb : Busy past)
      (hy : (Deed.called y).posted? = some e) : Warned g (.called y :: past) :=
    ⟨rfl, .inl ⟨e, hy, he, hb⟩⟩
  have hrefused {past : List Deed} (hb : Busy past) :
      (Board.ask .countEventDrop >>= fun _ => pure false).Ensures surroundings
        (fun ok past' => Busy past' ∧ (ok = true → Warned g past')) past := by
    rintro _ _ rfl
    exact ⟨hb.called, nofun⟩
  rintro there _ rfl
  cases there with
  | false => exact ⟨hb.called, nofun⟩
  | true =>
    rintro interrupted _ rfl
    cases interrupted with
    | false =>
      rintro sent _ rfl
      cases sent with
      | true => exact ⟨hb, fun _ => hwarned hb rfl⟩
      | false => exact hrefused hb
    | true =>
      rintro ⟨sent, woken⟩ _ rfl
      cases sent with
      | true =>
        cases woken with
        | true =>
          rintro _ _ rfl
          exact ⟨hb, fun _ => Warned.called (hwarned hb rfl)⟩
        | false => exact ⟨hb, fun _ => hwarned hb rfl⟩
      | false =>
        cases woken with
        | true =>
          rintro _ _ rfl
          exact hrefused hb
        | false => exact hrefused hb

/-- A report is in the queue, or the log says that it was dropped. -/
lemma reportResult_loud (t : Transport) {k : EventKind}
    (hk : k = .transportLost ∨ k = .publishFailed) (hb : Busy past) :
    (t.reportResult Board.postEvent k).Ensures surroundings
      (fun _ past' => Warned t.generation past' ∨ Dropped past') past := by
  rintro now _ rfl
  have he : ({ kind := k, time := now, arg := t.generation } : Event).Alarms t.generation :=
    ⟨rfl, hk⟩
  refine (postEvent_warned he hb.called).bind ?_
  rintro ok past ⟨-, hw⟩
  cases ok with
  | true => exact .inl (hw rfl)
  | false =>
    rintro _ _ rfl
    rcases hk with rfl | rfl
    · exact .inr (.inl List.mem_cons_self)
    · exact .inr (.inr List.mem_cons_self)

/-! ### Requests -/

lemma connect_quiet (t : Transport) (c : ConnectRequest) :
    (t.connect Board.postEvent c).Confined Quiet fun _ => True := by
  have hreport (t : Transport) (k : EventKind) :
      (t.reportResult Board.postEvent k).Confined Quiet fun _ => True :=
    (reportResult_idle t k).mono quiet_of_idle fun _ => id
  have hsettle (t : Transport) : t.settle.Confined Quiet fun _ => True :=
    (hreport t _).bind fun _ _ => trivial
  have hdial : (dial c).Confined Quiet fun _ => True := by
    simp [dial, stalled, Board.ask, Board.sleep, Quiet]
  rw [connect_eq]
  refine (close_quiet t).bind fun _ _ => (prepare_quiet c).bind fun ready _ => ?_
  cases ready with
  | false => exact ⟨trivial, fun _ => hsettle _⟩
  | true =>
    refine hdial.bind fun up _ => ?_
    cases up with
    | true => exact hsettle _
    | false => exact ⟨trivial, fun _ => ⟨trivial, fun _ => hsettle _⟩⟩

lemma complain_loud (hb : Busy past) (complaint : Bytes) :
    (Board.warn tag complaint >>= fun _ => t.reportResult Board.postEvent .publishFailed >>=
      fun _ => pure t).Ensures surroundings Loud past := by
  rintro _ _ rfl
  refine (reportResult_loud t (.inr rfl) hb.called).bind fun _ past hr => ?_
  exact fun _ _ => .inr hr

lemma ensures_connected (hup : t.connected = true) (p : Program Board α) :
    (p >>= fun _ => pure t).Ensures surroundings Loud past :=
  (ensures_true p past).bind fun _ _ _ => loud_of_connected hup

lemma execute_loud (hs : t.Steady past) {x : Issue} (hx : x.Rightful (taken past)) :
    (t.execute Board.postEvent x.request).Ensures surroundings Loud (took x :: past) := by
  obtain ⟨n, r⟩ := x
  cases r with
  | connect c =>
    refine (called_ensures (K := fun past => ¬Busy past) (fun _ _ hn => hn) (connect_quiet t c)
      not_busy_connect).mono ?_
    rintro t' past' ⟨-, hn⟩ _ hb
    exact absurd hb hn
  | disconnect g =>
    unfold execute
    dsimp only
    split
    · exact fun _ _ => .inl released_took
    · refine (called_ensures (K := Released) (fun _ _ => Released.called) (close_quiet t)
        released_took).mono ?_
      rintro t' past' ⟨-, hr⟩ _ _
      exact .inl hr
  | publish g topic payload retained =>
    have hg : g = t.generation := hs.generation_of_errand hx rfl
    unfold execute
    dsimp only
    rw [if_neg (not_not.2 hg)]
    cases hup : t.connected with
    | true =>
      rintro ok _ rfl
      cases ok with
      | true => exact loud_of_connected hup
      | false =>
        rintro _ _ rfl
        exact ensures_connected hup _
    | false => exact complain_loud (busy_took rfl) _
  | subscribe g topic =>
    have hg : g = t.generation := hs.generation_of_errand hx rfl
    unfold execute
    dsimp only
    rw [if_neg (not_not.2 hg)]
    cases hup : t.connected with
    | true =>
      rintro ok _ rfl
      cases ok with
      | true => exact ensures_connected hup _
      | false =>
        rintro _ _ rfl
        exact ensures_connected hup _
    | false => exact complain_loud (busy_took rfl) _

lemma drain_loud (hs : t.Steady past) (hl : t.Loud past) (n : Nat) :
    (t.drain Board.postEvent n).Ensures surroundings Loud past := by
  induction n generalizing t past with
  | zero => exact hl
  | succ n ih =>
    rintro _ _ (⟨rfl, rfl⟩ | ⟨x, rfl, rfl, hx⟩)
    · exact hl
    · refine ((execute_steady hs hx).and (execute_loud hs hx)).bind ?_
      rintro t past ⟨hs, hl⟩
      exact ih hs hl

/-- A loss is made known to an attempt that asked for something; another has nothing to be told. -/
lemma report_lost (t : Transport) {past : List Deed} :
    (t.reportResult Board.postEvent .transportLost >>= fun _ => pure t).Ensures surroundings
      Loud past := by
  by_cases hb : Busy past
  · refine (reportResult_loud t (.inl rfl) hb).bind fun _ past hr => ?_
    exact fun _ _ => .inr hr
  · have hquiet := (reportResult_idle t .transportLost).mono quiet_of_idle fun _ => id
    refine (called_ensures (K := fun past => ¬Busy past) (fun _ _ hn => hn) hquiet hb).bind ?_
    rintro _ past ⟨-, hn⟩ _ hb
    exact absurd hb hn

/-- A connection that is found dead is reported once. -/
lemma attend_loud (hl : t.Loud past) :
    (t.attend Board.postEvent).Ensures surroundings Loud past := by
  unfold attend
  cases hup : t.connected with
  | false => exact hl
  | true =>
    rintro alive _ rfl
    cases alive with
    | true =>
      rintro messages _ rfl
      exact ensures_connected hup _
    | false =>
      rintro status _ rfl _ _ rfl
      exact report_lost _

lemma serve_loud (hs : t.Steady past) (hl : t.Loud past) :
    (t.serve Board.postEvent).Ensures surroundings Loud past := by
  rintro there _ rfl
  cases there with
  | false => exact attend_loud (hl.called _)
  | true =>
    rintro _ _ rfl
    have hs := (hs.idle (c := .queueExists .requests) trivial true).idle (c := .setDraining true)
      trivial ()
    refine (drain_loud hs ((hl.called _).called _) _).bind fun t past hl => ?_
    rintro _ _ rfl
    exact attend_loud (hl.called _)

end Transport

end DoorControl
