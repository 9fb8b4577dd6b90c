import DoorControl.Proofs.Config.Erasure
import DoorControl.Proofs.Device.Boot
import DoorControl.Proofs.Device.Restart

/-!
A factory reset: the device takes leave of the broker, gives up the radio, tries to erase its
configuration and restarts in any case.
-/

namespace DoorControl

open Bytes Program

/-! ### Calls in order -/

/-- The exchanges but for the log, the oldest first. -/
def unlogged (h : List (Exchange Hardware)) : List (Exchange Hardware) :=
  h.reverse.filter fun x =>
    match x.call with
    | .log _ => false
    | _ => true

/-- The calls but for the log. -/
def Outward : Hardware.Call → Prop
  | .log _ => False
  | _ => True

@[simp] lemma unlogged_nil : unlogged [] = [] := rfl

@[simp] lemma unlogged_log (line : Bytes) (r : Unit) (h : List (Exchange Hardware)) :
    unlogged (⟨.log line, r⟩ :: h) = unlogged h := by
  simp [unlogged]

lemma unlogged_cons {c : Hardware.Call} (hc : Outward c) (r : Hardware.Answer c)
    (h : List (Exchange Hardware)) : unlogged (⟨c, r⟩ :: h) = unlogged h ++ [⟨c, r⟩] := by
  cases c <;> first | exact hc.elim | simp [unlogged]

namespace Program

variable {α β : Type} {cs : List Hardware.Call} {post : α → Prop}

/-- The program makes these calls in order, whatever is answered, with nothing but the log between
them, and gives a value in `post`. -/
def Makes (cs : List Hardware.Call) (post : α → Prop) (p : Program Hardware α) : Prop :=
  ∀ h, p.Ensures (.history Hardware) (fun a h' =>
    post a ∧ ∃ xs, xs.map Exchange.call = cs ∧ unlogged h' = unlogged h ++ xs) h

lemma makes_done {a : α} (ha : post a) : (done a : Program Hardware α).Makes [] post :=
  fun _ => ⟨ha, [], rfl, (List.append_nil _).symm⟩

lemma Makes.bind {p : Program Hardware α} {f : α → Program Hardware β} {mid : α → Prop}
    {post : β → Prop} {ds : List Hardware.Call} (hp : p.Makes cs mid)
    (hf : ∀ a, mid a → (f a).Makes ds post) : (p >>= f).Makes (cs ++ ds) post := by
  refine fun h => (hp h).bind ?_
  rintro a h' ⟨ha, xs, rfl, hxs⟩
  refine (hf a ha h').mono ?_
  rintro b h'' ⟨hb, ys, rfl, hys⟩
  exact ⟨hb, xs ++ ys, List.map_append, by rw [hys, hxs, List.append_assoc]⟩

lemma makes_log {line : Bytes} {f : Unit → Program Hardware α} (hf : (f ()).Makes cs post) :
    (call (I := Hardware) (.log line) f).Makes cs post := by
  rintro h _ _ rfl
  have hnext := hf (⟨.log line, ()⟩ :: h)
  rwa [unlogged_log] at hnext

lemma makes_call {c : Hardware.Call} (hc : Outward c)
    {f : Hardware.Answer c → Program Hardware α} (hf : ∀ r, (f r).Makes cs post) :
    (call (I := Hardware) c f).Makes (c :: cs) post := by
  rintro h r _ rfl
  refine (hf r _).mono ?_
  rintro a h' ⟨ha, xs, rfl, hxs⟩
  exact ⟨ha, ⟨c, r⟩ :: xs, rfl, by rw [hxs, unlogged_cons hc, List.append_assoc]; rfl⟩

lemma Makes.when {p : Program Hardware Unit} (hp : p.Makes cs fun _ => True) (b : Bool) :
    (if b then p else pure ()).Makes (if b then cs else []) fun _ => True := by
  cases b with
  | true => exact hp
  | false => exact makes_done trivial

end Program

/-! ### Going offline -/

namespace Session

variable {s : Session} (t : Timing)

/-- The calls by which a session takes leave of the broker: it says so if it has announced itself,
and disconnects if there is a connection. -/
def farewell (s : Session) (t : Timing) : List Hardware.Call :=
  let disconnect : List Hardware.Call :=
    [.request (.disconnect s.generation), .flush t.mqttFlushTimeout]
  match s.state with
  | .idle | .backoff => []
  | .connecting => disconnect
  | .connected | .subscribed =>
    .request (.publish s.generation s.topics.availability (ascii "offline") true) :: disconnect

lemma farewell_eq (s : Session) : s.farewell t =
    (if s.state.announced then
      [.request (.publish s.generation s.topics.availability offline true)] else []) ++
    if s.state.active then [.request (.disconnect s.generation), .flush t.mqttFlushTimeout]
    else [] := by
  unfold farewell
  cases s.state <;> rfl

lemma requestOrWarn_makes (r : Request) (message : Bytes) :
    (requestOrWarn r message).Makes [.request r] fun _ => True := by
  refine makes_call (c := .request r) trivial fun ok => ?_
  cases ok with
  | true => exact makes_done trivial
  | false => exact makes_log (makes_done trivial)

lemma shutdown_makes (h : s.Open) : (s.shutdown t).Makes (s.farewell t) fun _ => True := by
  unfold shutdown
  rw [if_neg (by simp [show s.stopped = false from h]), teardown_eq, Program.bind_assoc,
    farewell_eq]
  refine ((requestOrWarn_makes _ _).when _).bind fun _ _ => ?_
  cases s.state.active with
  | true =>
    refine (requestOrWarn_makes _ _).bind fun _ _ => ?_
    refine makes_call (c := .flush t.mqttFlushTimeout) trivial fun ok => ?_
    cases ok with
    | true => exact makes_done trivial
    | false => exact makes_log (makes_done trivial)
  | false => exact makes_done trivial

end Session

lemma Link.shutdown_makes {s : Link} (h : s.Holding) :
    s.shutdown.Makes [.stopRadio] fun _ => True := by
  unfold shutdown
  rw [if_neg (by simp [h.running]), if_pos h.taken]
  exact makes_call (c := .stopRadio) trivial fun _ => makes_done trivial

/-! ### Erasing -/

namespace Store

/-- One attempt to erase, and whether it succeeds: both slots are to be emptied, whatever becomes of
the first. Where no remove was refused they are looked at, for a remove may have been ignored. -/
inductive Attempt : List (Exchange Hardware) → Bool → Prop
  | refused (a b : Bool) (h : (a && b) = false) : Attempt
      [⟨.storedRemove Slot.a.key, a⟩, ⟨.storedRemove Slot.b.key, b⟩] false
  | firstKept (n : Nat) (h : n ≠ 0) : Attempt
      [⟨.storedRemove Slot.a.key, true⟩, ⟨.storedRemove Slot.b.key, true⟩,
        ⟨.storedLength Slot.a.key, n⟩] false
  | secondKept (n : Nat) (h : n ≠ 0) : Attempt
      [⟨.storedRemove Slot.a.key, true⟩, ⟨.storedRemove Slot.b.key, true⟩,
        ⟨.storedLength Slot.a.key, (0 : Nat)⟩, ⟨.storedLength Slot.b.key, n⟩] false
  | erased : Attempt
      [⟨.storedRemove Slot.a.key, true⟩, ⟨.storedRemove Slot.b.key, true⟩,
        ⟨.storedLength Slot.a.key, (0 : Nat)⟩, ⟨.storedLength Slot.b.key, (0 : Nat)⟩] true

/-- Attempts up to the first that succeeds, and up to `limit` of them: there are fewer failures than
that before one that succeeds, or as many and none that succeeds. -/
def Tries (limit : Nat) (xs : List (Exchange Hardware)) (erased : Bool) : Prop :=
  ∃ failures : List (List (Exchange Hardware)), (∀ x ∈ failures, Attempt x false) ∧
    if erased then
      failures.length < limit ∧ ∃ last, Attempt last true ∧ xs = failures.flatten ++ last
    else failures.length = limit ∧ xs = failures.flatten

variable {limit : Nat} {xs ys : List (Exchange Hardware)} {erased : Bool}

lemma tries_none : Tries 0 [] false := ⟨[], nofun, rfl, rfl⟩

lemma Attempt.succeeds (h : Attempt xs true) : Tries (limit + 1) xs true :=
  ⟨[], nofun, limit.succ_pos, xs, h, rfl⟩

lemma Tries.again (h : Tries limit ys erased) (hx : Attempt xs false) :
    Tries (limit + 1) (xs ++ ys) erased := by
  obtain ⟨failures, hfailures, h⟩ := h
  refine ⟨xs :: failures, List.forall_mem_cons.2 ⟨hx, hfailures⟩, ?_⟩
  cases erased with
  | true =>
    obtain ⟨hlength, last, hlast, rfl⟩ := h
    exact ⟨Nat.succ_lt_succ hlength, last, hlast, by simp⟩
  | false =>
    obtain ⟨rfl, rfl⟩ := h
    exact ⟨rfl, rfl⟩

lemma erase_attempt (h : List (Exchange Hardware)) : erase.Ensures (.history Hardware) (fun e h' =>
    ∃ xs, Attempt xs e.isNone ∧ unlogged h' = unlogged h ++ xs) h := by
  rintro a _ rfl b _ rfl
  cases hab : a && b with
  | false =>
    have hgone : (!a || !b) = true := by
      revert hab
      cases a <;> cases b <;> decide
    change (ite _ _ _ : Program Hardware (Option StoreError)).Ensures _ _ _
    rw [if_pos hgone]
    rintro _ _ rfl
    exact ⟨_, .refused a b hab, by simp [unlogged]⟩
  | true =>
    obtain ⟨rfl, rfl⟩ : a = true ∧ b = true := by simpa using hab
    rintro n _ rfl
    change (ite _ _ _ : Program Hardware (Option StoreError)).Ensures _ _ _
    split
    · rename_i hn
      rintro _ _ rfl
      exact ⟨_, .firstKept n hn, by simp [unlogged]⟩
    · rename_i hn
      obtain rfl : n = 0 := by simpa using hn
      rintro n _ rfl
      change (ite _ _ _ : Program Hardware (Option StoreError)).Ensures _ _ _
      split
      · rename_i hn
        obtain rfl : n = 0 := of_decide_eq_true hn
        rintro _ _ rfl
        exact ⟨_, .erased, by simp [unlogged]⟩
      · rename_i hn
        rintro _ _ rfl
        exact ⟨_, .secondKept n (by simpa using hn), by simp [unlogged]⟩

/-- The attempts in a row, and what they come to. -/
lemma eraseWithin_tries {R : Flash.Rules} (left attempt : Nat) (s : Flash)
    (h : List (Exchange Hardware)) : (Device.eraseWithin left attempt).Ensures
      ((Flash.surroundings R).both (.history Hardware)) (fun erased w =>
        (∃ xs, Tries left xs erased ∧ unlogged w.2 = unlogged h ++ xs) ∧
          (erased = true → w.1.Blank)) (s, h) := by
  -- on the attempts left: one that fails goes before those that follow
  induction left generalizing attempt s h with
  | zero => exact ⟨⟨[], tries_none, (List.append_nil _).symm⟩, nofun⟩
  | succ left ih =>
    refine ((erase_blank s).both (erase_attempt h)).bind ?_
    rintro e ⟨s, past⟩ ⟨hblank, xs, hattempt, hxs⟩
    cases e with
    | none => exact ⟨⟨xs, hattempt.succeeds, hxs⟩, fun _ => hblank rfl⟩
    | some e =>
      rintro _ ⟨s', past'⟩ ⟨hs, hpast⟩
      obtain rfl : s' = s := hs
      obtain rfl : past' = _ :: past := hpast
      refine (ih (attempt + 1) s' _).mono ?_
      rintro erased w ⟨⟨ys, htries, hys⟩, hleft⟩
      refine ⟨⟨xs ++ ys, htries.again hattempt, ?_⟩, hleft⟩
      rw [hys, unlogged_log, hxs, List.append_assoc]

end Store

/-! ### The reset -/

namespace Device

variable {d : Device}

lemma goOffline_makes (hs : d.session.Open) (hl : d.link.Holding) :
    d.goOffline.Makes (d.session.farewell d.timing ++ [.stopRadio])
      fun d' => d'.timing = d.timing ∧ d'.rebootPending = d.rebootPending := by
  refine (Session.shutdown_makes d.timing hs).bind fun session _ => ?_
  exact (Link.shutdown_makes hl).bind fun link _ => makes_done ⟨rfl, rfl⟩

lemma reboot_makes (hr : d.rebootPending = false) (why : RebootReason) :
    (d.reboot why).Makes [.restart] (·.rebootPending = true) := by
  unfold reboot
  rw [if_neg (by simp [hr])]
  exact makes_log (makes_call (c := .restart) trivial fun _ => makes_done rfl)

lemma restart_last {p : Program Hardware Device} (hp : p.Makes [.restart] (·.rebootPending = true))
    (hspared : p.Confined Flash.Spared fun _ => True) {R : Flash.Rules} (s : Flash)
    (h : List (Exchange Hardware)) :
    p.Ensures ((Flash.surroundings R).both (.history Hardware)) (fun d w =>
      d.rebootPending = true ∧ w.1 = s ∧ unlogged w.2 = unlogged h ++ [⟨.restart, ()⟩]) (s, h) := by
  refine ((Flash.keeps hspared s).both (hp h)).mono ?_
  rintro d w ⟨⟨-, hs⟩, hpending, xs, hxs, hw⟩
  obtain ⟨⟨_, r⟩, rfl, rfl⟩ := List.map_eq_singleton_iff.1 hxs
  exact ⟨hpending, hs, hw⟩

/-- What is done in a reset, in order, with what it leaves of the storage: the device leaves the
broker and the network, tries to erase, and asks for a restart. -/
def Resets (leaving : List Hardware.Call) (limit : Nat)
    (w : Flash × List (Exchange Hardware)) : Prop :=
  ∃ leave tries erased, leave.map Exchange.call = leaving ∧ Store.Tries limit tries erased ∧
    unlogged w.2 = leave ++ tries ++ [⟨.restart, ()⟩] ∧ (erased = true → w.1.Blank)

lemma factoryReset_ensures {R : Flash.Rules} (hr : d.rebootPending = false) (hs : d.session.Open)
    (hl : d.link.Holding) (source : UInt8) (s : Flash) :
    (d.factoryReset source).Ensures ((Flash.surroundings R).both (.history Hardware)) (fun d' w =>
      d'.rebootPending = true ∧
        Resets (d.session.farewell d.timing ++ [.stopRadio]) (eraseAttempts d.timing) w)
      (s, []) := by
  rintro _ ⟨s, h⟩ ⟨-, hh⟩
  obtain rfl : h = [⟨.log _, ()⟩] := hh
  refine ((ensures_true _ s).both (goOffline_makes hs hl _)).bind ?_
  rintro d' ⟨s, h⟩ ⟨-, ⟨ht, hp⟩, leave, hleave, hh⟩
  rw [unlogged_log, unlogged_nil, List.nil_append] at hh
  rw [← ht] at hleave ⊢
  refine (Store.eraseWithin_tries _ 1 s h).bind ?_
  rintro erased ⟨s, h'⟩ ⟨⟨tries, htries, hh'⟩, hblank⟩
  rw [hh] at hh'
  have hreboot := reboot_makes (d := { d' with hasConfig := false }) (hp.trans hr) .factoryReset
  cases erased with
  | true =>
    refine (restart_last hreboot (reboot_spared _ _) s h').mono ?_
    rintro d'' w ⟨hpending, hs, hw⟩
    exact ⟨hpending, leave, tries, true, hleave, htries, hh' ▸ hw, hs ▸ hblank⟩
  | false =>
    refine (restart_last (makes_log hreboot) ⟨trivial, fun _ => reboot_spared _ _⟩ s h').mono ?_
    rintro d'' w ⟨hpending, hs, hw⟩
    exact ⟨hpending, leave, tries, false, hleave, htries, hh' ▸ hw, nofun⟩

lemma factoryReset_restarts (hr : d.rebootPending = false) (source : UInt8)
    (h : List (Exchange Hardware)) : (d.factoryReset source).Ensures (.history Hardware)
      (fun _ h' => restarts h' = restarts h + 1) h := by
  rintro _ _ rfl
  rw [← restarts_cons (c := .log _) trivial () h]
  refine (d.goOffline_going.right.unchanged (fun _ r h hc => restarts_cons hc r h) _).bind ?_
  rintro d' h' ⟨hp, hsame⟩
  rw [← hsame]
  have herase (left attempt : Nat) : (eraseWithin left attempt).Confined Going fun _ => True := by
    refine (eraseWithin_confined left attempt).mono (fun c hc => ?_) fun _ => id
    cases c <;> trivial
  refine ((herase _ _).unchanged (fun _ r h hc => restarts_cons hc r h) h').bind ?_
  rintro erased h'' ⟨-, hsame⟩
  rw [← hsame]
  have hreboot (h : List (Exchange Hardware)) :=
    reboot_restarts (d := { d' with hasConfig := false }) (hp.trans hr) .factoryReset h
  cases erased with
  | true => exact (hreboot h'').mono fun _ _ => And.right
  | false =>
    rintro _ _ rfl
    refine (hreboot _).mono fun _ h' hd => ?_
    rw [hd.2, restarts_cons (c := .log _) trivial]

lemma start_blank {R : Flash.Rules} {s : Flash} (h : s.Blank) (t : Timing) (now : Clock) :
    ((new t).start now).Ensures ((Flash.surroundings R).both (.history Hardware)) (fun d w =>
      d.hasConfig = false ∧ Link.roles w.2 = [.startAccessPoint Link.setupSsid Link.setupPass])
      (s, []) :=
  (start_boots now (Store.load_blank h) t).mono fun _ _ hboots => ⟨hboots.hasConfig, hboots.roles⟩

end Device

namespace Life

/-- **A reset restarts whatever fails**: after any operations, whatever the hardware answered, a
device that no restart is due for takes leave of the broker, then stops the radio, then tries to
erase its configuration up to the first success and no more often than configured, but at least
once, then asks for a restart, the only one, and answers no. That is so over any storage. Where an
attempt succeeds both slots are empty, and any new device starts from them without a configuration
and asks the radio for nothing but its own network. -/
theorem reset_restarts (t : Timing) (now : Clock) (steps : List Device.Step) (R : Flash.Rules) :
    (begin t now >>= fun l => l.run steps).Ensures (.history Hardware) (fun l _ =>
      ∀ (e : Event) (s : Flash), l.device.rebootPending = false → e.kind = .resetRequested →
        (l.device.handle e).Ensures ((Flash.surroundings R).both (.history Hardware)) (fun r w =>
          r.1 = false ∧ restarts w.2 = 1 ∧
          Device.Resets (l.device.session.farewell t ++ [.stopRadio])
            (max 1 t.eraseRetryLimit.toNat) w ∧
          (w.1.Blank → ∀ (t : Timing) (now : Clock), ((Device.new t).start now).Ensures
            ((Flash.surroundings R).both (.history Hardware)) (fun d v => d.hasConfig = false ∧
              Link.roles v.2 = [.startAccessPoint Link.setupSsid Link.setupPass]) (w.1, [])))
          (s, [])) [] := by
  refine (run_standing t now steps).mono fun l h hl e s hr he => ?_
  obtain ⟨ht, -, -, -, hs, hlink⟩ := hl.device
  have hreact : l.device.react e = l.device.factoryReset e.arg := by simp only [Device.react, he]
  rw [Device.handle_eq hr, hreact, ← ht]
  have horder := Device.factoryReset_ensures (R := R) hr (hs hr) (hlink hr) e.arg s
  have honce := (ensures_true (S := Flash.surroundings R) _ s).both
    (Device.factoryReset_restarts hr e.arg [])
  refine (horder.and honce).bind ?_
  rintro d w ⟨⟨hpending, hresets⟩, -, hrestarts⟩
  unfold Device.conclude
  rw [if_pos hpending]
  exact ⟨rfl, hrestarts, hresets, fun hblank => Device.start_blank hblank⟩

end Life

end DoorControl
