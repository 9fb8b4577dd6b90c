import DoorControl.Proofs.Board.Ledger

/-!
What the transport's task makes of the requests it takes. Where each publish and subscribe comes
behind the connect of its own attempt, the task finds it to be of the generation that it is in, and
carries it out over the connection of that attempt or not at all.
-/

namespace DoorControl

open Bytes Program

/-- What the transport's task does: it takes a request, or makes another call. -/
inductive Deed
  | took (x : Issue)
  | called (y : Exchange Board)

namespace Deed

def issue? : Deed → Option Issue
  | took x => some x
  | called _ => none

/-- The requests that were taken, the newest first, from deeds with the newest first. -/
def taken (past : List Deed) : List Issue := past.filterMap issue?

/-- The attempt whose connection the client was left with. -/
def linked : List Deed → Option Nat
  | [] => none
  | called ⟨.connect _, up⟩ :: past =>
    if up then (Issue.lastConnect (taken past)).map Prod.fst else none
  | called ⟨.disconnect, _⟩ :: _ => none
  | _ :: past => linked past

/-- The calls of the client that need a connection. -/
def Errand : Board.Call → Prop
  | .publish _ _ _ | .subscribe _ _ => True
  | _ => False

/-- A call does a request over the connection of its attempt. -/
def Does (call : Board.Call) (x : Issue) (past : List Deed) : Prop :=
  (∃ complaint, x.request.errand? = some (call, complaint)) ∧ linked past = some x.attempt

/-- At every moment, the request that was taken was rightful, and what came of it next was its
errand over the connection of its own attempt, or a complaint. The client went on no other
errands. -/
structure Kept (past : List Deed) : Prop where
  rightful : ∀ x past', took x :: past' <:+ past → x.Rightful (taken past')
  answered : ∀ d x past', d :: took x :: past' <:+ past → ∀ call complaint,
    x.request.errand? = some (call, complaint) → ∃ y, d = called y ∧
      (y.call = call ∧ linked past' = some x.attempt ∨
        y.call = .log (Log.Entry.line ⟨.warning, some Transport.tag, complaint⟩))
  errands : ∀ y past', called y :: past' <:+ past → Errand y.call →
    ∃ x past'', past' = took x :: past'' ∧ Does y.call x past''

/-- The newest deed is no request whose errand is still to be done. -/
def Settled (past : List Deed) : Prop :=
  ∀ x past', past = took x :: past' → x.request.errand? = none

/-- The deeds were kept in order, and nothing is half done. -/
structure Calm (past : List Deed) : Prop where
  kept : Kept past
  settled : Settled past

variable {past : List Deed} {x : Issue} {y : Exchange Board}

/-! ### One more deed -/

lemma Kept.nil : Kept [] where
  rightful x past' hp := by simp at hp
  answered d x past' hp := by simp at hp
  errands y past' hp := by simp at hp

lemma Kept.of_suffix {past' : List Deed} (hk : Kept past') (hp : past <:+ past') : Kept past where
  rightful x rest hx := hk.rightful x rest (hx.trans hp)
  answered d x rest hx := hk.answered d x rest (hx.trans hp)
  errands y rest hy := hk.errands y rest (hy.trans hp)

lemma Kept.called (hk : Kept past)
    (ha : ∀ x past', past = took x :: past' → ∀ call complaint,
      x.request.errand? = some (call, complaint) →
        (y.call = call ∧ linked past' = some x.attempt ∨
          y.call = .log (Log.Entry.line ⟨.warning, some Transport.tag, complaint⟩)))
    (he : Errand y.call → ∃ x past', past = took x :: past' ∧ Does y.call x past') :
    Kept (called y :: past) where
  rightful x past' hp := by
    rcases List.suffix_cons_iff.1 hp with hp | hp
    · cases hp
    · exact hk.rightful x past' hp
  answered d x past' hp call complaint herrand := by
    rcases List.suffix_cons_iff.1 hp with hp | hp
    · obtain ⟨rfl, rfl⟩ := List.cons.inj hp
      exact ⟨y, rfl, ha x past' rfl call complaint herrand⟩
    · exact hk.answered d x past' hp call complaint herrand
  errands z past' hp hz := by
    rcases List.suffix_cons_iff.1 hp with hp | hp
    · obtain ⟨rfl, rfl⟩ : z = y ∧ past' = past := by simpa using hp
      exact he hz
    · exact hk.errands z past' hp hz

lemma Calm.called (hc : Calm past) (hy : ¬Errand y.call) : Calm (called y :: past) where
  kept := by
    refine hc.kept.called (fun x past' hp call complaint herrand => ?_) fun he => absurd he hy
    rw [hc.settled x past' hp] at herrand
    cases herrand
  settled x past' hp := by cases hp

lemma Calm.took (hc : Calm past) (hx : x.Rightful (taken past)) : Kept (took x :: past) where
  rightful z past' hp := by
    rcases List.suffix_cons_iff.1 hp with hp | hp
    · obtain ⟨rfl, rfl⟩ : z = x ∧ past' = past := by simpa using hp
      exact hx
    · exact hc.kept.rightful z past' hp
  answered d z past' hp call complaint herrand := by
    rcases List.suffix_cons_iff.1 hp with hp | hp
    · obtain ⟨-, rfl⟩ := List.cons.inj hp
      rw [hc.settled z past' rfl] at herrand
      cases herrand
    · exact hc.kept.answered d z past' hp call complaint herrand
  errands z past' hp hz := by
    rcases List.suffix_cons_iff.1 hp with hp | hp
    · cases hp
    · exact hc.kept.errands z past' hp hz

lemma Calm.took_of_none (hc : Calm past) (hx : x.Rightful (taken past))
    (hn : x.request.errand? = none) : Calm (.took x :: past) where
  kept := hc.took hx
  settled z past' hp := by
    obtain ⟨rfl, -⟩ : x = z ∧ past = past' := by simpa using hp
    exact hn

/-- A request that needs a connection is answered with its errand over the connection of its
attempt, or with a complaint. -/
lemma Calm.answered (hc : Calm past) (hx : x.Rightful (taken past)) {call : Board.Call}
    {complaint : Bytes} (he : x.request.errand? = some (call, complaint))
    (hy : y.call = call ∧ linked past = some x.attempt ∨
      y.call = .log (Log.Entry.line ⟨.warning, some Transport.tag, complaint⟩)) :
    Calm (.called y :: .took x :: past) where
  kept := by
    refine (hc.took hx).called (fun z past' hp call' complaint' he' => ?_) fun herrand => ?_
    · obtain ⟨rfl, rfl⟩ : x = z ∧ past = past' := by simpa using hp
      obtain ⟨rfl, rfl⟩ : call = call' ∧ complaint = complaint' := by simpa [he] using he'
      exact hy
    · rcases hy with ⟨rfl, hlinked⟩ | hlog
      · exact ⟨x, past, rfl, ⟨complaint, he⟩, hlinked⟩
      · rw [hlog] at herrand
        exact herrand.elim
  settled z past' hp := by cases hp

/-! ### The surroundings of the transport's task -/

/-- The calls that take nothing and need no connection. -/
def Quiet : Board.Call → Prop
  | .receiveRequest | .publish _ _ _ | .subscribe _ _ => False
  | _ => True

/-- The calls that leave the connection alone, too. -/
def Idle : Board.Call → Prop
  | .connect _ | .disconnect => False
  | c => Quiet c

/-- Surroundings that hand out rightful requests, answer anything else and keep the deeds. -/
def surroundings : Surroundings Board (List Deed) where
  may
    | .receiveRequest, past, r, past' => (r = none ∧ past' = past) ∨
      ∃ x : Issue, r = some x.request ∧ past' = took x :: past ∧ x.Rightful (taken past)
    | c, past, r, past' => past' = called ⟨c, r⟩ :: past

/-- Every call can be answered, and undoes no deed. -/
lemma answerable (c : Board.Call) (past : List Deed) :
    ∃ r past', surroundings.may c past r past' ∧ past <:+ past' := by
  cases c with
  | receiveRequest => exact ⟨none, past, .inl ⟨rfl, rfl⟩, List.suffix_rfl⟩
  | accessPointAddress => exact ⟨⟨0, 0, 0, 0⟩, _, rfl, List.suffix_cons _ _⟩
  | _ => exact ⟨default, _, rfl, List.suffix_cons _ _⟩

lemma eq_of_quiet {c : Board.Call} (hc : Quiet c) {r : Board.Answer c} {past' : List Deed}
    (h : surroundings.may c past r past') : past' = called ⟨c, r⟩ :: past := by
  cases c <;> first | exact h | exact hc.elim

lemma quiet_of_idle (c : Board.Call) (hc : Idle c) : Quiet c := by
  cases c <;> first | exact hc | trivial

lemma not_errand_of_quiet {c : Board.Call} (hc : Quiet c) : ¬Errand c := by
  cases c <;> first | exact hc.elim | exact id

lemma linked_idle {c : Board.Call} (hc : Idle c) (r : Board.Answer c) (past : List Deed) :
    linked (called ⟨c, r⟩ :: past) = linked past := by
  cases c <;> first | rfl | exact hc.elim

end Deed

open Deed

namespace Transport

/-- What the task knows of the connection is so: the generation is that of the last connect, and a
connection that it believes in is the one of that attempt. -/
structure Steady (t : Transport) (past : List Deed) : Prop where
  calm : Calm past
  generation : ∀ n c, Issue.lastConnect (taken past) = some (n, c) → t.generation = .ofNat n
  linked : t.connected = true →
    ∃ n c, Issue.lastConnect (taken past) = some (n, c) ∧ linked past = some n

variable {t : Transport} {past : List Deed} {α : Type}

lemma steady_new : ({} : Transport).Steady [] where
  calm := ⟨.nil, nofun⟩
  generation n c hc := by cases hc
  linked hup := by cases hup

lemma Steady.idle (hs : t.Steady past) {c : Board.Call} (hc : Idle c) (r : Board.Answer c) :
    t.Steady (called ⟨c, r⟩ :: past) where
  calm := hs.calm.called (not_errand_of_quiet (quiet_of_idle c hc))
  generation := hs.generation
  linked hup := by
    rw [linked_idle hc]
    exact hs.linked hup

lemma Steady.ensures (hs : t.Steady past) {p : Program Board α} {post : α → Prop}
    (hp : p.Confined Idle post) :
    p.Ensures surroundings (fun a past' => post a ∧ t.Steady past') past := by
  refine hp.ensures ?_ hs
  rintro c past r past' hc hr hs
  obtain rfl := eq_of_quiet (quiet_of_idle c hc) hr
  exact hs.idle hc r

lemma calm_ensures {p : Program Board α} {post : α → Prop} (hp : p.Confined Quiet post)
    {past : List Deed} (hc : Calm past) : p.Ensures surroundings
      (fun a past' => post a ∧ Calm past' ∧ taken past' = taken past) past := by
  refine hp.ensures (K := fun past' => Calm past' ∧ taken past' = taken past) ?_ ⟨hc, rfl⟩
  rintro c past' r _ hq hr ⟨hc, ht⟩
  obtain rfl := eq_of_quiet hq hr
  exact ⟨hc.called (not_errand_of_quiet hq), ht⟩

/-- A connection that is not believed in need not be anyone's. -/
lemma Steady.down (hs : t.Steady past) : { t with connected := false }.Steady past :=
  { hs with linked := nofun }

/-! ### The calls of each part -/

lemma postEvent_idle (e : Event) : (Board.postEvent e).Confined Idle fun _ => True := by
  simp [Board.postEvent, Board.sendEvent, Board.ask, Idle, Quiet]

lemma reportResult_idle (t : Transport) (k : EventKind) :
    (t.reportResult Board.postEvent k).Confined Idle fun _ => True := by
  refine ⟨trivial, fun now => (postEvent_idle _).bind fun ok _ => ?_⟩
  cases ok with
  | true => trivial
  | false => exact ⟨trivial, fun _ => trivial⟩

lemma close_quiet (t : Transport) :
    t.close.Confined Quiet (· = { t with connected := false }) := by
  simp [close, stalled, Board.ask, Board.sleep, Quiet]

lemma deliver_idle (t : Transport) (topic : Option Bytes) (payload : Bytes) :
    (t.deliver Board.postEvent topic payload).Confined Idle fun _ => True := by
  refine ⟨trivial, fun now => ?_⟩
  split
  · refine (postEvent_idle _).bind fun ok _ => ?_
    cases ok with
    | true => trivial
    | false => exact ⟨trivial, fun _ => trivial⟩
  · exact ⟨trivial, fun _ => trivial⟩

lemma deliverAll_idle (t : Transport) (messages : List (Option Bytes × Bytes)) :
    (t.deliverAll Board.postEvent messages).Confined Idle fun _ => True := by
  induction messages with
  | nil => trivial
  | cons m rest ih => exact (t.deliver_idle m.1 m.2).bind fun _ _ => ih

lemma attend_idle (t : Transport) : (t.attend Board.postEvent).Confined Idle
    fun t' => t' = t ∨ t' = { t with connected := false } := by
  unfold attend
  split
  · exact .inl rfl
  refine ⟨trivial, fun alive => ?_⟩
  cases alive with
  | true => exact ⟨trivial, fun messages => (t.deliverAll_idle messages).bind fun _ _ => .inl rfl⟩
  | false =>
    refine ⟨trivial, fun status => ⟨trivial, fun _ => ?_⟩⟩
    exact (reportResult_idle _ _).bind fun _ _ => .inr rfl

/-! ### Requests -/

/-- Sets the client up for a connection, and tells whether it has the room it needs. -/
def prepare (c : ConnectRequest) : Program Board Bool := do
  if c.tls then
    Board.ask .skipCertificate
    Board.ask (.useSocket true)
  else
    Board.ask (.useSocket false)
  Board.ask (.setServer c.host c.port)
  Board.ask (.setBuffer bufferSize)

def dial (c : ConnectRequest) : Program Board Bool := do
  stalled (← Board.ask .connectStall) (Board.ask (.connect (loginOf c)))

/-- The task believes in a connection of a generation, or in none, and reports so. -/
def settle (t : Transport) : Program Board Transport := do
  t.reportResult Board.postEvent (if t.connected then .transportUp else .transportFailed)
  pure t

lemma connect_eq (t : Transport) (c : ConnectRequest) : t.connect Board.postEvent c = (do
    let _ ← t.close
    if ← prepare c then
      if ← dial c then settle ⟨c.generation, true⟩
      else
        Board.warn tag (ascii "connect failed rc=" ++ signed (← Board.ask .clientStatus))
        settle ⟨c.generation, false⟩
    else
      Board.error tag (ascii "buffer allocation failed")
      settle ⟨c.generation, false⟩) := by
  unfold connect
  rw [(close_quiet t).bind_eq]
  unfold prepare
  cases c.tls <;> rfl

lemma prepare_quiet (c : ConnectRequest) : (prepare c).Confined Quiet fun _ => True := by
  simp [prepare, Board.ask, Quiet]

lemma dial_links (c : ConnectRequest) (hc : Calm past) : (dial c).Ensures surroundings
    (fun up past' => Calm past' ∧ taken past' = taken past ∧
      (up = true → linked past' = (Issue.lastConnect (taken past)).map Prod.fst)) past := by
  have hdial {past : List Deed} (hc : Calm past) (up : Bool) :
      Calm (called ⟨.connect (loginOf c), up⟩ :: past) ∧
        (up = true → linked (called ⟨.connect (loginOf c), up⟩ :: past) =
          (Issue.lastConnect (taken past)).map Prod.fst) :=
    ⟨hc.called (y := ⟨.connect (loginOf c), up⟩) id, fun hup => if_pos hup⟩
  rintro stall _ rfl
  have hc := hc.called (y := ⟨.connectStall, stall⟩) id
  change (ite _ _ _ : Program Board Bool).Ensures _ _ _
  split
  · rintro _ _ rfl up _ rfl
    have hc := hc.called (y := ⟨.sleep stall, ()⟩) id
    obtain ⟨hc, hlinked⟩ := hdial hc up
    exact ⟨hc, rfl, hlinked⟩
  · rintro up _ rfl
    obtain ⟨hc, hlinked⟩ := hdial hc up
    exact ⟨hc, rfl, hlinked⟩

lemma report_steady (hs : t.Steady past) (k : EventKind) :
    (t.reportResult Board.postEvent k >>= fun _ => pure t).Ensures surroundings Steady past := by
  refine (hs.ensures (reportResult_idle t k)).bind ?_
  rintro _ past ⟨-, hs⟩
  exact hs

lemma settle_steady (hs : t.Steady past) : t.settle.Ensures surroundings Steady past :=
  report_steady hs _

/-- A connect that was taken leads to a connection of its own attempt, or to none. -/
lemma connect_steady (t : Transport) {n : Nat} {c : ConnectRequest} (hc : Calm past)
    (hlast : Issue.lastConnect (taken past) = some (n, c)) (hg : c.generation = .ofNat n) :
    (t.connect Board.postEvent c).Ensures surroundings Steady past := by
  have hgeneration {past : List Deed} (hlast : Issue.lastConnect (taken past) = some (n, c))
      (m : Nat) (d : ConnectRequest) (hm : Issue.lastConnect (taken past) = some (m, d)) :
      c.generation = .ofNat m := by
    obtain ⟨rfl, -⟩ : n = m ∧ c = d := by simpa [hlast] using hm
    exact hg
  have hdown {past : List Deed} (hc : Calm past)
      (hlast : Issue.lastConnect (taken past) = some (n, c)) :
      Steady ⟨c.generation, false⟩ past :=
    ⟨hc, hgeneration hlast, nofun⟩
  rw [connect_eq]
  refine (calm_ensures (close_quiet t) hc).bind ?_
  rintro _ past ⟨-, hc, ht⟩
  rw [← ht] at hlast
  refine (calm_ensures (prepare_quiet c) hc).bind ?_
  rintro ready past ⟨-, hc, ht⟩
  rw [← ht] at hlast
  cases ready with
  | false =>
    rintro _ _ rfl
    exact settle_steady ((hdown hc hlast).idle (c := .log _) trivial ())
  | true =>
    refine (dial_links c hc).bind ?_
    rintro up past ⟨hc, ht, hlinked⟩
    rw [← ht] at hlast hlinked
    cases up with
    | true =>
      refine settle_steady ⟨hc, hgeneration hlast, fun _ => ⟨n, c, hlast, ?_⟩⟩
      rw [hlinked rfl, hlast]
      rfl
    | false =>
      rintro status _ rfl _ _ rfl
      have hs := (hdown hc hlast).idle (c := .clientStatus) trivial status
      exact settle_steady (hs.idle (c := .log _) trivial ())

lemma linked_errand {x : Issue} {call : Board.Call} {complaint : Bytes}
    (he : x.request.errand? = some (call, complaint)) (r : Board.Answer call) (past : List Deed) :
    Deed.linked (called ⟨call, r⟩ :: took x :: past) = Deed.linked past := by
  obtain ⟨n, q⟩ := x
  cases q with
  | publish g topic payload retained =>
    obtain ⟨rfl, -⟩ := Prod.mk.inj (Option.some.inj he)
    rfl
  | subscribe g topic =>
    obtain ⟨rfl, -⟩ := Prod.mk.inj (Option.some.inj he)
    rfl
  | connect c => cases he
  | disconnect g => cases he

section

variable (hs : t.Steady past) {x : Issue} (hx : x.Rightful (taken past)) {call : Board.Call}
  {complaint : Bytes} (he : x.request.errand? = some (call, complaint))

include hx he in
/-- A rightful request with an errand comes after the connect of its attempt. -/
lemma lastConnect_errand : (∃ c, Issue.lastConnect (taken past) = some (x.attempt, c)) ∧
    Issue.lastConnect (taken (took x :: past)) = Issue.lastConnect (taken past) := by
  refine ⟨hx.connect (by simp [he]), Issue.lastConnect_cons_of_ne (fun c hc => ?_) _⟩
  rw [hc] at he
  cases he

include hs hx he in
/-- The errand of a rightful request is done over the connection of its attempt. -/
lemma Steady.does (hup : t.connected = true) (r : Board.Answer call) :
    t.Steady (called ⟨call, r⟩ :: took x :: past) := by
  obtain ⟨⟨c, hlast⟩, hsame⟩ := lastConnect_errand hx he
  have hlinked : Deed.linked past = some x.attempt := by
    obtain ⟨n, d, hd, hl⟩ := hs.linked hup
    obtain ⟨rfl, -⟩ : x.attempt = n ∧ c = d := by simpa [hlast] using hd
    exact hl
  refine ⟨hs.calm.answered hx he (.inl ⟨rfl, hlinked⟩), hsame ▸ hs.generation, fun _ => ?_⟩
  exact ⟨x.attempt, c, hsame.trans hlast, (linked_errand he r past).trans hlinked⟩

include hs hx he in
/-- A rightful request whose errand cannot be done is complained about. -/
lemma Steady.complains (u : Unit) : t.Steady
    (called ⟨.log (Log.Entry.line ⟨.warning, some tag, complaint⟩), u⟩ :: took x :: past) := by
  obtain ⟨-, hsame⟩ := lastConnect_errand hx he
  refine ⟨hs.calm.answered hx he (.inr rfl), hsame ▸ hs.generation, fun hup => ?_⟩
  obtain ⟨n, c, hc, hl⟩ := hs.linked hup
  exact ⟨n, c, hsame.trans hc, hl⟩

end

lemma complain_steady {complaint : Bytes} (hs : ∀ u : Unit, t.Steady
      (called ⟨.log (Log.Entry.line ⟨.warning, some tag, complaint⟩), u⟩ :: past)) :
    (Board.warn tag complaint >>= fun _ => t.reportResult Board.postEvent .publishFailed >>=
      fun _ => pure t).Ensures surroundings Steady past := by
  rintro u _ rfl
  exact report_steady (hs u) _

/-- A rightful request with an errand is of the generation that the task is in. -/
lemma Steady.generation_of_errand (hs : t.Steady past) {x : Issue} (hx : x.Rightful (taken past))
    (he : x.request.errand?.isSome) : x.request.generation = t.generation := by
  obtain ⟨c, hlast⟩ := hx.connect he
  exact hx.generation.trans (hs.generation _ c hlast).symm

/-- A request that was taken is done over the connection of its own attempt, or not at all. -/
lemma execute_steady (hs : t.Steady past) {x : Issue} (hx : x.Rightful (taken past)) :
    (t.execute Board.postEvent x.request).Ensures surroundings Steady (took x :: past) := by
  obtain ⟨n, r⟩ := x
  cases r with
  | connect c => exact connect_steady t (hs.calm.took_of_none hx rfl) rfl hx.generation
  | disconnect g =>
    have hc := hs.calm.took_of_none hx rfl
    unfold execute
    dsimp only
    split
    · exact ⟨hc, hs.generation, hs.linked⟩
    · refine (calm_ensures (close_quiet t) hc).mono ?_
      rintro _ past' ⟨rfl, hc, ht⟩
      refine ⟨hc, ?_, nofun⟩
      rw [ht]
      exact hs.generation
  | publish g topic payload retained =>
    have hg : g = t.generation := hs.generation_of_errand hx rfl
    unfold execute
    dsimp only
    rw [if_neg (not_not.2 hg)]
    cases hup : t.connected with
    | true =>
      rintro ok _ rfl
      have hs := hs.does hx rfl hup ok
      cases ok with
      | true => exact hs
      | false => exact complain_steady fun u => hs.idle (c := .log _) trivial u
    | false => exact complain_steady fun u => hs.complains hx rfl u
  | subscribe g topic =>
    have hg : g = t.generation := hs.generation_of_errand hx rfl
    unfold execute
    dsimp only
    rw [if_neg (not_not.2 hg)]
    cases hup : t.connected with
    | true =>
      rintro ok _ rfl
      have hs := hs.does hx rfl hup ok
      cases ok with
      | true => exact report_steady hs _
      | false => exact complain_steady fun u => hs.idle (c := .log _) trivial u
    | false => exact complain_steady fun u => hs.complains hx rfl u

lemma drain_steady (hs : t.Steady past) (n : Nat) :
    (t.drain Board.postEvent n).Ensures surroundings Steady past := by
  induction n generalizing t past with
  | zero => exact hs
  | succ n ih =>
    rintro _ _ (⟨rfl, rfl⟩ | ⟨x, rfl, rfl, hx⟩)
    · exact hs
    · exact (execute_steady hs hx).bind fun t past hs => ih hs

lemma serve_steady (hs : t.Steady past) :
    (t.serve Board.postEvent).Ensures surroundings Steady past := by
  have hattend {t : Transport} {past : List Deed} (hs : t.Steady past) :
      (t.attend Board.postEvent).Ensures surroundings Steady past := by
    refine (hs.ensures t.attend_idle).mono ?_
    rintro t' past' ⟨rfl | rfl, hs⟩
    · exact hs
    · exact hs.down
  rintro there _ rfl
  have hs := hs.idle (c := .queueExists .requests) trivial there
  cases there with
  | true =>
    rintro _ _ rfl
    have hs := hs.idle (c := .setDraining true) trivial ()
    refine (drain_steady hs _).bind fun t past hs => ?_
    rintro _ _ rfl
    exact hattend (hs.idle (c := .setDraining false) trivial ())
  | false => exact hattend hs

end Transport

end DoorControl
