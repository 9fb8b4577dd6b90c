import DoorControl.Proofs.Abreast
import DoorControl.Proofs.Config.Akin
import DoorControl.Proofs.Config.ShortReads
import DoorControl.Proofs.Parts

/-!
The parts of the device with other passwords. A password is handed to the radio, to the transport
and to storage, and is looked at nowhere: all other calls are the same, and so is the way that each
part goes.
-/

namespace DoorControl

open Bytes Program

/-! ### Calls that differ in passwords -/

/-- The call without its secrets: passwords are left out, and what is written to the slots of the
configuration is blotted. Log lines and events stay as they are. -/
def Hardware.Call.redacted : Hardware.Call → Hardware.Call
  | .startStation ssid _ => .startStation ssid []
  | .request (.connect r) => .request (.connect { r with pass := [] })
  | .offer s => .offer { s with values := s.values.keyed .blank .blank }
  | .storedWrite key value =>
    .storedWrite key (if key ∈ [Store.Slot.a.key, Store.Slot.b.key] then
      List.replicate value.length 0 else value)
  | c => c

namespace Hardware

/-- Neither storage nor the mailbox is asked. -/
def Outside : Hardware.Call → Prop
  | .take | .storedLength _ | .storedRead _ _ | .storedWrite _ _ | .storedRemove _ => False
  | _ => True

/-- One call, or two that differ in a password only. -/
inductive Veiled : Hardware.Call → Hardware.Call → Prop
  | same {c : Hardware.Call} (h : Outside c) : Veiled c c
  | startStation (ssid pass pass' : Bytes) :
    Veiled (.startStation ssid pass) (.startStation ssid pass')
  | connect (r : ConnectRequest) (pass : Bytes) :
    Veiled (.request (.connect r)) (.request (.connect { r with pass }))
  | offer {s s' : Submission} (h : s.Akin s') : Veiled (.offer s) (.offer s')

lemma Veiled.outside {c c' : Hardware.Call} (h : Veiled c c') : Outside c := by
  cases h with
  | same h => exact h
  | _ => trivial

/-- Such calls with the same answers. -/
def veiled : Pairing Hardware where
  calls := Veiled
  answers _ _ r r' := r ≍ r'

variable {α α' β : Type}

lemma outside_veiled (c : Hardware.Call) (hc : Outside c) :
    veiled.calls c c ∧ ∀ r r', veiled.answers c c r r' → r' = r :=
  ⟨.same hc, fun _ _ hr => (eq_of_heq hr).symm⟩

/-- A part that asks neither storage nor the mailbox, and what comes after it. -/
lemma outside_bind {p : Program Hardware α} {M : α → Prop} {f : α → Program Hardware α'}
    {f' : α → Program Hardware β} {post : α' → β → Prop} (h : p.Confined Outside M)
    (hf : ∀ a, M a → (f a).Alike veiled post (f' a)) :
    (p >>= f).Alike veiled post (p >>= f') :=
  h.alike_bind outside_veiled hf

lemma veiled_call {c c' : Hardware.Call} (hc : Veiled c c')
    {f : Hardware.Answer c → Program Hardware α} {f' : Hardware.Answer c' → Program Hardware β}
    {post : α → β → Prop} (hf : ∀ r r', r ≍ r' → (f r).Alike veiled post (f' r')) :
    (Program.call (I := Hardware) c f).Alike veiled post (Program.call (I := Hardware) c' f') :=
  ⟨hc, hf⟩

lemma outside_call {c : Hardware.Call} (hc : Outside c) {f : Hardware.Answer c → Program Hardware α}
    {f' : Hardware.Answer c → Program Hardware β} {post : α → β → Prop}
    (hf : ∀ r, (f r).Alike veiled post (f' r)) :
    (Program.call (I := Hardware) c f).Alike veiled post (Program.call (I := Hardware) c f') :=
  veiled_call (.same hc) fun r _ hr => eq_of_heq hr ▸ hf r

lemma postOrWarn_outside (tag : Bytes) (e : Event) :
    (postOrWarn tag e).Confined Outside fun _ => True :=
  postOrWarn_confined tag trivial fun _ => trivial

end Hardware

open Hardware

/-! ### Storage -/

/-- What two devices have stored by key, empty where there is nothing. -/
structure Vaults where
  one : Bytes → Bytes
  other : Bytes → Bytes

namespace Vaults

/-- Both devices store a value. -/
def put (s : Vaults) (key v v' : Bytes) : Vaults :=
  ⟨Function.update s.one key v, Function.update s.other key v'⟩

/-- The slots hold the same, but for the passwords in complete records. -/
def Akin (s : Vaults) : Prop := ∀ slot : Store.Slot, Record.Akin (s.one slot.key) (s.other slot.key)

lemma Akin.put {s : Vaults} (h : s.Akin) {v v' : Bytes} (hv : Record.Akin v v')
    (slot : Store.Slot) : (s.put slot.key v v').Akin := by
  intro x
  by_cases hx : x = slot
  · subst hx
    simpa [Vaults.put] using hv
  · have hkey : x.key ≠ slot.key := mt Store.Slot.key_inj.1 hx
    simpa [Vaults.put, hkey] using h x

/-- The calls of two devices that go together: storage is asked about the same slot, and given
records that differ in passwords only. -/
inductive Counterpart : Hardware.Call → Hardware.Call → Prop
  | veiled {c c' : Hardware.Call} (h : Veiled c c') : Counterpart c c'
  | take : Counterpart .take .take
  | storedLength (slot : Store.Slot) : Counterpart (.storedLength slot.key) (.storedLength slot.key)
  | storedRead (slot : Store.Slot) (room : Nat) :
    Counterpart (.storedRead slot.key room) (.storedRead slot.key room)
  | storedWrite (slot : Store.Slot) (seq : UInt32) {c c' : Config} (h : c.Akin c')
      (hc : c.complete) :
    Counterpart (.storedWrite slot.key (Record.encode c seq))
      (.storedWrite slot.key (Record.encode c' seq))
  | storedRemove (slot : Store.Slot) : Counterpart (.storedRemove slot.key) (.storedRemove slot.key)

/-- The answers to such calls, and what becomes of the stores. The mailbox gives submissions that
differ in passwords only. Each operation on storage is carried out whole or refused, for both; of a
value that does not fit the room its beginning is read. All else is answered alike. -/
inductive Answered : (c c' : Hardware.Call) → Vaults → Hardware.Answer c → Hardware.Answer c' →
    Vaults → Prop
  | veiled {c c' : Hardware.Call} (h : Veiled c c') {r : Hardware.Answer c}
      {r' : Hardware.Answer c'} (hr : r ≍ r') (s : Vaults) : Answered c c' s r r' s
  | taken {o o' : Option Submission} (h : Option.Rel Submission.Akin o o') (s : Vaults) :
    Answered .take .take s o o' s
  | measured (key : Bytes) (s : Vaults) :
    Answered (.storedLength key) (.storedLength key) s (s.one key).length (s.other key).length s
  | unmeasured (key : Bytes) (n : Nat) (s : Vaults) :
    Answered (.storedLength key) (.storedLength key) s n n s
  | read (key : Bytes) (room : Nat) (s : Vaults) :
    Answered (.storedRead key room) (.storedRead key room) s ((s.one key).take room)
      ((s.other key).take room) s
  | unread (key : Bytes) (room : Nat) (s : Vaults) :
    Answered (.storedRead key room) (.storedRead key room) s [] [] s
  | written (key v v' : Bytes) (s : Vaults) :
    Answered (.storedWrite key v) (.storedWrite key v') s v.length v'.length (s.put key v v')
  | unwritten (key : Bytes) {v v' : Bytes} {n : Nat} (h : n < v.length) (h' : n < v'.length)
      (s : Vaults) : Answered (.storedWrite key v) (.storedWrite key v') s n n s
  | removed (key : Bytes) (ok gone : Bool) (s : Vaults) :
    Answered (.storedRemove key) (.storedRemove key) s ok ok (if gone then s.put key [] [] else s)

/-- Calls that go together are one call, but for the passwords in it. -/
lemma Counterpart.redacted_eq {c c' : Hardware.Call} (h : Counterpart c c') :
    c'.redacted = c.redacted := by
  cases h with
  | veiled h =>
    cases h with
    | offer h =>
      obtain ⟨_, rfl, _, _, rfl, -⟩ := h
      rfl
    | _ => rfl
  | storedWrite slot seq h hc =>
    have hslot : slot.key ∈ [Store.Slot.a.key, Store.Slot.b.key] := by cases slot <;> decide
    simp only [Hardware.Call.redacted, Record.length_encode, if_pos hslot]
  | _ => rfl

lemma redacted_records {h h' : List (Exchange Hardware)}
    (hh : List.Forall₂ (fun x x' => Counterpart x.call x'.call) h h') :
    h'.map (·.call.redacted) = h.map (·.call.redacted) := by
  induction hh with
  | nil => rfl
  | cons hx _ ih => rw [List.map_cons, List.map_cons, hx.redacted_eq, ih]

/-- Two devices with storage of their own, in surroundings that answer alike. -/
def tandem : Tandem Hardware Vaults := ⟨Counterpart, Answered⟩

lemma tandem_extends : tandem.Extends veiled := by
  intro c c' h
  refine ⟨.veiled h, fun w r r' w' hr => ?_⟩
  have h : Veiled c c' := h
  cases hr with
  | veiled _ hr => exact ⟨hr, rfl⟩
  | _ => exact h.outside.elim

variable {α α' β : Type} {post : α → β → Prop} {f : α' → Program Hardware α}
  {f' : α' → Program Hardware β}

/-- What is alike leaves both stores as they are. -/
lemma veiled_along {p : Program Hardware α} {p' : Program Hardware β} (h : p.Alike veiled post p') :
    p.Along tandem Akin post p' :=
  h.along tandem_extends

lemma outside_along {p : Program Hardware α'} (h : p.Confined Outside fun _ => True)
    (hf : ∀ a, (f a).Along tandem Akin post (f' a)) :
    (p >>= f).Along tandem Akin post (p >>= f') := by
  refine (veiled_along (h.alike outside_veiled)).bind ?_
  rintro _ a ⟨rfl, -⟩
  exact hf _

end Vaults

open Vaults

namespace Store

lemma log_along {α β : Type} (line : Bytes) {a : α} {b : β} {post : α → β → Prop} (h : post a b) :
    (Program.call (I := Hardware) (.log line) fun _ => .done a).Along tandem Vaults.Akin post
      (Program.call (I := Hardware) (.log line) fun _ => .done b) :=
  veiled_along (outside_call (c := .log line) trivial fun _ => h)

lemma readSlot_akin (slot : Slot) :
    (readSlot slot).Along tandem Vaults.Akin Found.Akin (readSlot slot) := by
  refine along_call (M := fun n n' => n' = n) (.storedLength slot) ?_ ?_
  · intro s n n' s' hs hr
    cases hr with
    | veiled h => exact h.outside.elim
    | measured => exact ⟨(hs slot).length_eq, hs⟩
    | unmeasured => exact ⟨rfl, hs⟩
  rintro n _ rfl
  refine along_ite .rfl (fun _ => along_done .none) fun _ => along_ite .rfl (fun _ => ?_) fun _ => ?_
  · exact log_along _ .none
  refine along_call (M := Record.Akin) (.storedRead slot Record.size) ?_ fun v v' hv => ?_
  · intro s v v' s' hs hr
    cases hr with
    | veiled h => exact h.outside.elim
    | read => exact ⟨(hs slot).take_size, hs⟩
    | unread => exact ⟨.inl rfl, hs⟩
  refine along_ite (by rw [hv.length_eq]) (fun _ => log_along _ .none) fun _ => ?_
  have hfound := hv.decode?
  generalize Record.decode? v = o at hfound ⊢
  generalize Record.decode? v' = o' at hfound ⊢
  cases hfound with
  | none => exact log_along _ .none
  | some h => exact along_done (.some h)

lemma load_akin : load.Along tandem Vaults.Akin (Option.Rel Config.Akin) load := by
  refine (readSlot_akin .a).bind fun a a' ha => (readSlot_akin .b).bind fun b b' hb => ?_
  have h := newest?_akin ha hb
  refine along_done ?_
  generalize newest? a b = n at h ⊢
  generalize newest? a' b' = n' at h ⊢
  cases h with
  | none => exact .none
  | some h => exact .some h.2.1

lemma storedWrite_abreast {slot : Slot} {v v' : Bytes}
    (hcall : Counterpart (.storedWrite slot.key v) (.storedWrite slot.key v')) (s : Vaults) :
    (Hardware.storedWrite slot.key v).Abreast tandem (fun n n' s' =>
      n = v.length ∧ n' = v'.length ∧ s' = s.put slot.key v v' ∨
        n < v.length ∧ n < v'.length ∧ n' = n ∧ s' = s)
      (Hardware.storedWrite slot.key v') s := by
  refine ⟨hcall, fun n n' s' hr => ?_⟩
  cases hr with
  | veiled h => exact h.outside.elim
  | written => exact .inl ⟨rfl, rfl, rfl⟩
  | unwritten _ h h' => exact .inr ⟨h, h', rfl, rfl⟩

lemma storedRead_abreast (slot : Slot) (room : Nat) (s : Vaults) :
    (Hardware.storedRead slot.key room).Abreast tandem (fun v v' s' =>
      (v = (s.one slot.key).take room ∧ v' = (s.other slot.key).take room ∨ v = [] ∧ v' = []) ∧
        s' = s)
      (Hardware.storedRead slot.key room) s := by
  refine ⟨.storedRead slot room, fun v v' s' hr => ?_⟩
  cases hr with
  | veiled h => exact h.outside.elim
  | read => exact ⟨.inl ⟨rfl, rfl⟩, rfl⟩
  | unread => exact ⟨.inr ⟨rfl, rfl⟩, rfl⟩

lemma write_akin {c c' : Config} (h : c.Akin c') (hc : c.complete) (slot : Slot) (seq : UInt32) :
    (write c slot seq).Along tandem Vaults.Akin Eq (write c' slot seq) := by
  have hcall := Counterpart.storedWrite slot seq h hc
  have hakin := Record.akin_encode h hc seq
  have hsize := Record.length_encode c seq
  have hsize' := Record.length_encode c' seq
  unfold write
  -- The bytes of the records do not matter, only how many they are.
  generalize Record.encode c seq = v at hcall hakin hsize ⊢
  generalize Record.encode c' seq = v' at hcall hakin hsize' ⊢
  have hempty : [] ≠ v := by rintro rfl; cases hsize
  have hempty' : [] ≠ v' := by rintro rfl; cases hsize'
  refine fun s hs => (storedWrite_abreast hcall s).bind ?_
  rintro n n' s' (⟨rfl, rfl, rfl⟩ | ⟨hn, hn', rfl, rfl⟩)
  · simp only [ne_eq, not_true, if_false]
    refine (storedRead_abreast slot Record.size _).bind ?_
    rintro w w' _ ⟨⟨rfl, rfl⟩ | ⟨rfl, rfl⟩, rfl⟩
    · simp only [Vaults.put, Function.update_self, List.take_of_length_le (Nat.le_of_eq hsize),
        List.take_of_length_le (Nat.le_of_eq hsize'), not_true, if_false]
      exact log_along _ rfl _ (hs.put hakin slot)
    · simp only [if_pos hempty, if_pos hempty']
      exact log_along _ rfl _ (hs.put hakin slot)
  · simp only [if_pos (Nat.ne_of_lt hn), if_pos (Nat.ne_of_lt hn')]
    exact log_along _ rfl _ hs

lemma save_akin {c c' : Config} (h : c.Akin c') :
    (save c).Along tandem Vaults.Akin Eq (save c') := by
  cases hc : c.complete with
  | false =>
    unfold save
    rw [h.complete_eq, hc]
    exact along_done rfl
  | true =>
    rw [save_eq hc, save_eq (h.complete_eq.trans hc)]
    refine (readSlot_akin .a).bind fun a a' ha => (readSlot_akin .b).bind fun b b' hb => ?_
    rw [next_akin ha hb]
    exact write_akin h hc _ _

lemma storedRemove_along (slot : Slot) :
    (Hardware.storedRemove slot.key).Along tandem Vaults.Akin Eq
      (Hardware.storedRemove slot.key) := by
  refine along_call (M := Eq) (.storedRemove slot) (fun s ok ok' s' hs hr => ?_)
    fun _ _ h => along_done h
  cases hr with
  | veiled h => exact h.outside.elim
  | removed _ _ gone =>
    cases gone with
    | false => exact ⟨rfl, hs⟩
    | true => exact ⟨rfl, hs.put (.inl rfl) slot⟩

lemma storedLength_along (slot : Slot) :
    (Hardware.storedLength slot.key).Along tandem Vaults.Akin Eq
      (Hardware.storedLength slot.key) := by
  refine along_call (M := Eq) (.storedLength slot) (fun s n n' s' hs hr => ?_)
    fun _ _ h => along_done h
  cases hr with
  | veiled h => exact h.outside.elim
  | measured => exact ⟨(hs slot).length_eq.symm, hs⟩
  | unmeasured => exact ⟨rfl, hs⟩

lemma erase_akin : erase.Along tandem Vaults.Akin Eq erase := by
  refine (storedRemove_along .a).bind ?_
  rintro a _ rfl
  refine (storedRemove_along .b).bind ?_
  rintro b _ rfl
  -- What is said at the end hangs on the answers, which are the same.
  extract_lets report
  have hreport (gone : Bool) : (report gone).Along tandem Vaults.Akin Eq (report gone) :=
    along_ite .rfl (fun _ => log_along _ rfl) fun _ => log_along _ rfl
  refine along_ite .rfl (fun _ => hreport false) fun _ => (storedLength_along .a).bind ?_
  rintro n _ rfl
  refine along_ite .rfl (fun _ => hreport false) fun _ => (storedLength_along .b).bind ?_
  rintro m _ rfl
  exact hreport (decide (m = 0))

end Store

/-! ### The link and the session -/

namespace Link

/-- The link with another password. -/
def keyed (s : Link) (pass : Bytes) : Link := { s with pass }

@[simp] lemma keyed_state (s : Link) (pass : Bytes) : (s.keyed pass).state = s.state := rfl

/-- The two links differ in the password at most. -/
def Akin (s s' : Link) : Prop := ∃ pass, s' = s.keyed pass

variable (t : Timing) (s : Link) (pass : Bytes) (now : Clock)

lemma transition_akin (next : LinkState) :
    (s.transition next now).Alike veiled Akin ((s.keyed pass).transition next now) := by
  refine alike_ite .rfl (fun _ => ⟨pass, rfl⟩) fun _ => ?_
  exact outside_bind (postOrWarn_outside _ _) fun _ _ => ⟨pass, rfl⟩

lemma fail_akin (why : Failure) :
    (s.fail t now why).Alike veiled Akin ((s.keyed pass).fail t now why) := by
  refine outside_call (c := .stopRadio) trivial fun _ => ?_
  refine outside_call (c := .log _) trivial fun _ => ?_
  exact transition_akin { s with failures := _, retryAt := _ } pass now _

lemma connect_akin :
    (s.connect t now).Alike veiled Akin ((s.keyed pass).connect t now) := by
  refine (transition_akin { s with startedAt := now } pass now .connecting).bind ?_
  rintro s _ ⟨pass, rfl⟩
  refine veiled_call (.startStation s.ssid s.pass pass) ?_
  rintro ok _ ⟨⟩
  cases ok with
  | true => exact outside_call (c := .log _) trivial fun _ => ⟨pass, rfl⟩
  | false => exact fail_akin t s pass now .refused

lemma enterSetup_akin :
    (s.enterSetup now).Alike veiled (fun r r' => r'.1 = r.1 ∧ r.2.Akin r'.2)
      ((s.keyed pass).enterSetup now) := by
  refine alike_ite .rfl (fun _ => ?_) fun _ => ?_
  · exact outside_call (c := .log _) trivial fun _ => ⟨rfl, pass, rfl⟩
  refine outside_call (c := .startAccessPoint _ _) trivial fun ok => ?_
  cases ok with
  | true => exact (transition_akin s pass now .setupMode).bind fun _ _ h => ⟨rfl, h⟩
  | false => exact outside_call (c := .log _) trivial fun _ => ⟨rfl, pass, rfl⟩

/-- Of a configuration the link takes the network and its password. -/
lemma start_akin {c c' : Config} (h : c.Akin c') :
    (s.start t c now).Alike veiled (fun r r' => r'.1 = r.1 ∧ r.2.Akin r'.2)
      ((s.keyed pass).start t c' now) := by
  obtain ⟨wifiPass, _, rfl, -⟩ := h
  refine alike_ite .rfl (fun _ => ?_) fun _ => ?_
  · exact outside_call (c := .log _) trivial fun _ => ⟨rfl, pass, rfl⟩
  exact (connect_akin t { s with ssid := _, pass := _, failures := 0 } (clip 64 wifiPass.view)
    now).bind fun _ _ h => ⟨rfl, h⟩

lemma follow_akin :
    (s.follow t now).Alike veiled Akin ((s.keyed pass).follow t now) := by
  refine outside_call (c := .radioStatus) trivial fun r => ?_
  cases r with
  | up =>
    refine outside_call (c := .log _) trivial fun _ => ?_
    exact transition_akin { s with failures := 0 } pass now .connected
  | failed => exact fail_akin t s pass now .association
  | down => exact alike_ite .rfl (fun _ => fail_akin t s pass now .timeout) fun _ => ⟨pass, rfl⟩

lemma watch_akin :
    (s.watch t now).Alike veiled Akin ((s.keyed pass).watch t now) := by
  refine outside_call (c := .radioStatus) trivial fun r => alike_ite .rfl (fun _ => ⟨pass, rfl⟩) ?_
  refine fun _ => outside_call (c := .stopRadio) trivial fun _ => ?_
  refine outside_call (c := .log _) trivial fun _ => ?_
  exact transition_akin { s with retryAt := _, failures := 1 } pass now .disconnected

lemma update_akin :
    (s.update t now).Alike veiled Akin ((s.keyed pass).update t now) := by
  refine alike_ite .rfl (fun _ => ⟨pass, rfl⟩) fun _ => ?_
  simp only [keyed_state]
  cases s.state with
  | connecting => exact follow_akin t s pass now
  | connected => exact watch_akin t s pass now
  | disconnected =>
    exact alike_ite .rfl (fun _ => connect_akin t s pass now) fun _ => ⟨pass, rfl⟩
  | uninitialized => exact ⟨pass, rfl⟩
  | setupMode => exact ⟨pass, rfl⟩

lemma shutdown_akin : s.shutdown.Alike veiled Akin (s.keyed pass).shutdown := by
  refine alike_ite .rfl (fun _ => ⟨pass, rfl⟩) fun _ => alike_ite .rfl (fun _ => ?_) fun _ => ?_
  · exact outside_call (c := .stopRadio) trivial fun _ => ⟨pass, rfl⟩
  · exact ⟨pass, rfl⟩

end Link

namespace Session

/-- The session with another password. -/
def keyed (s : Session) (pass : Bytes) : Session :=
  { s with connection := { s.connection with pass } }

@[simp] lemma keyed_state (s : Session) (pass : Bytes) : (s.keyed pass).state = s.state := rfl

/-- The two sessions differ in the password at most. -/
def Akin (s s' : Session) : Prop := ∃ pass, s' = s.keyed pass

variable (t : Timing) (s : Session) (pass : Bytes) (now : Clock)

lemma teardown_outside (s : Session) : s.teardown.Confined Outside fun _ => True := by
  simp [teardown, Outside]

lemma announce_outside (s : Session) : s.announce.Confined Outside fun _ => True := by
  simp [announce, Outside]

/-- Of the passwords in a configuration only the one for the broker is taken, and not looked at. -/
lemma configure_akin {c c' : Config} (h : c.Akin c') :
    (s.configure c).Alike veiled (fun r r' => r'.1 = r.1 ∧ r.2.Akin r'.2)
      ((s.keyed pass).configure c') := by
  obtain ⟨wifiPass, mqttPass, rfl, -⟩ := h
  have htopics : (s.keyed pass).topics.build (c.keyed wifiPass mqttPass).deviceId.view =
      s.topics.build c.deviceId.view := rfl
  unfold configure
  rw [htopics]
  obtain ⟨named, topics⟩ := s.topics.build c.deviceId.view
  refine alike_ite .rfl (fun _ => ?_) fun _ => ?_
  · exact outside_call (c := .log _) trivial fun _ => ⟨rfl, pass, rfl⟩
  have hdocument : Document.discovery? (c.keyed wifiPass mqttPass) topics =
      Document.discovery? c topics := rfl
  simp only [hdocument]
  cases Document.discovery? c topics with
  | none => exact outside_call (c := .log _) trivial fun _ => ⟨rfl, pass, rfl⟩
  | some d =>
    refine alike_ite .rfl (fun _ => ?_) fun _ => ?_
    · exact outside_call (c := .log _) trivial fun _ => ⟨rfl, pass, rfl⟩
    · exact ⟨rfl, clip 64 mqttPass.view, rfl⟩

lemma transition_akin (next : SessionState) :
    (s.transition next now).Alike veiled Akin ((s.keyed pass).transition next now) := by
  refine alike_ite .rfl (fun _ => ⟨pass, rfl⟩) fun _ => ?_
  exact outside_bind (postOrWarn_outside _ _) fun _ _ => ⟨pass, rfl⟩

lemma fail_akin (why : Failure) :
    (s.fail t now why).Alike veiled Akin ((s.keyed pass).fail t now why) := by
  refine outside_bind s.teardown_outside fun _ _ => outside_call (c := .log _) trivial fun _ => ?_
  exact transition_akin { s with failures := _, retryAt := _ } pass now .backoff

lemma lose_akin : (s.lose t now).Alike veiled Akin ((s.keyed pass).lose t now) := by
  refine outside_call (c := .log _) trivial fun _ => ?_
  exact transition_akin { s with retryAt := _, failures := 1 } pass now .backoff

lemma connect_akin : (s.connect t now).Alike veiled Akin ((s.keyed pass).connect t now) := by
  refine (transition_akin { s with generation := _, connection := _, startedAt := now } pass now
    .connecting).bind ?_
  rintro s _ ⟨pass, rfl⟩
  refine veiled_call (.connect s.connection pass) ?_
  rintro ok _ ⟨⟩
  cases ok with
  | true => exact outside_call (c := .log _) trivial fun _ => ⟨pass, rfl⟩
  | false => exact fail_akin t s pass now .refused

lemma enterConnected_akin :
    (s.enterConnected t now).Alike veiled Akin ((s.keyed pass).enterConnected t now) := by
  refine (transition_akin s pass now .connected).bind ?_
  rintro s _ ⟨pass, rfl⟩
  refine outside_bind s.announce_outside fun ok _ => ?_
  exact alike_ite .rfl (fun _ => ⟨pass, rfl⟩) fun _ => fail_akin t s pass now .announce

lemma publishPending_akin :
    s.publishPending.Alike veiled Akin (s.keyed pass).publishPending := by
  refine alike_ite .rfl (fun _ => ⟨pass, rfl⟩) fun _ => ?_
  refine outside_call (c := .request (.publish _ _ _ _)) trivial fun ok => ?_
  exact alike_ite .rfl (fun _ => ⟨pass, rfl⟩) fun _ => ⟨pass, rfl⟩

lemma enterSubscribed_akin :
    (s.enterSubscribed now).Alike veiled Akin ((s.keyed pass).enterSubscribed now) := by
  refine outside_call (c := .log _) trivial fun _ => ?_
  refine (transition_akin { s with failures := 0 } pass now .subscribed).bind ?_
  rintro s _ ⟨pass, rfl⟩
  exact publishPending_akin { s with dirty := true } pass

lemma update_akin (linkUp : Bool) :
    (s.update t linkUp now).Alike veiled Akin ((s.keyed pass).update t linkUp now) := by
  refine alike_ite .rfl (fun _ => ⟨pass, rfl⟩) fun _ => alike_ite .rfl (fun _ => ?_) fun _ => ?_
  · refine alike_ite .rfl (fun _ => ⟨pass, rfl⟩) fun _ => ?_
    exact outside_bind s.teardown_outside fun _ _ => transition_akin s pass now .idle
  simp only [keyed_state]
  cases s.state with
  | idle => exact connect_akin t s pass now
  | backoff => exact alike_ite .rfl (fun _ => connect_akin t s pass now) fun _ => ⟨pass, rfl⟩
  | connecting =>
    exact alike_ite .rfl (fun _ => fail_akin t s pass now .timeout) fun _ => ⟨pass, rfl⟩
  | connected =>
    exact alike_ite .rfl (fun _ => fail_akin t s pass now .timeout) fun _ => ⟨pass, rfl⟩
  | subscribed => exact publishPending_akin s pass

lemma receive_akin (payload : Bytes) :
    (s.receive payload now).Alike veiled Akin ((s.keyed pass).receive payload now) := by
  unfold receive
  cases LockState.ofCommand? payload with
  | none => exact outside_call (c := .log _) trivial fun _ => ⟨pass, rfl⟩
  | some l =>
    refine outside_call (c := .post _) trivial fun ok => ?_
    cases ok with
    | true => exact ⟨pass, rfl⟩
    | false => exact outside_call (c := .log _) trivial fun _ => ⟨pass, rfl⟩

lemma handle_akin (e : Event) :
    (s.handle t e now).Alike veiled Akin ((s.keyed pass).handle t e now) := by
  have hstay : s.Akin (s.keyed pass) := ⟨pass, rfl⟩
  refine alike_ite .rfl (fun _ => hstay) fun _ => alike_ite .rfl (fun _ => hstay) fun _ => ?_
  cases e.kind with
  | transportUp =>
    exact alike_ite .rfl (fun _ => enterConnected_akin t s pass now) fun _ => hstay
  | transportFailed =>
    exact alike_ite .rfl (fun _ => fail_akin t s pass now .connect) fun _ => hstay
  | subscribed => exact alike_ite .rfl (fun _ => enterSubscribed_akin s pass now) fun _ => hstay
  | publishFailed =>
    exact alike_ite .rfl (fun _ => fail_akin t s pass now .publish) fun _ => hstay
  | transportLost => exact alike_ite .rfl (fun _ => lose_akin t s pass now) fun _ => hstay
  | message => exact alike_ite .rfl (fun _ => receive_akin s pass now _) fun _ => hstay
  | _ => exact hstay

lemma publish_akin (l : LockState) (d : DoorState) :
    (s.publish l d).Alike veiled Akin ((s.keyed pass).publish l d) :=
  alike_ite .rfl (fun _ => publishPending_akin { s with lock := l, door := d, dirty := true } pass)
    fun _ => ⟨pass, rfl⟩

lemma shutdown_akin : (s.shutdown t).Alike veiled Akin ((s.keyed pass).shutdown t) := by
  refine alike_ite .rfl (fun _ => ⟨pass, rfl⟩) fun _ => outside_bind s.teardown_outside fun _ _ => ?_
  refine alike_ite .rfl (fun _ => ?_) fun _ => ⟨pass, rfl⟩
  refine outside_call (c := .flush _) trivial fun ok => ?_
  cases ok with
  | true => exact ⟨pass, rfl⟩
  | false => exact outside_call (c := .log _) trivial fun _ => ⟨pass, rfl⟩

end Session

end DoorControl
