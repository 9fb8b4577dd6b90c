import DoorControl.Proofs.Session.Attempts

/-!
What the broker is left with when a session takes leave. The online notice is retained, and an
orderly disconnect does not fire the last will, so the offline notice has to be asked for. It is,
right before the disconnect, but the transport may refuse it.
-/

namespace DoorControl

open Bytes Program

/-- What a session has to do with the transport, and what changes its topics. -/
inductive Dealing
  | configured
  | asked (r : Request) (taken : Bool)
deriving DecidableEq

/-- The device is there, under a topic. -/
def Request.online (g : UInt8) (topic : Bytes) : Request := .publish g topic Session.online true

/-- The device is gone, under a topic. -/
def Request.offline (g : UInt8) (topic : Bytes) : Request := .publish g topic Session.offline true

/-- A connection is asked for. -/
def Dealing.connects : Dealing → Bool
  | .asked (.connect _) _ => true
  | _ => false

/-- What was dealt, the newest first. -/
abbrev Dealings := List Dealing

namespace Dealings

/-- A call that is no request is none of the dealings. -/
def after : (c : Hardware.Call) → Hardware.Answer c → Dealings → Dealings
  | .request r, taken, h => .asked r taken :: h
  | _, _, h => h

/-- Surroundings that answer anything and keep the dealings. -/
def surroundings : Surroundings Hardware Dealings where
  may c h r h' := h' = after c r h

/-- The dealings belong to one attempt. -/
def Together (h : Dealings) : Prop := ∀ x ∈ h, x.connects = false

instance (h : Dealings) : Decidable (Together h) := inferInstanceAs (Decidable (∀ x ∈ h, _))

/-- Whatever disconnect was asked for in an attempt that had said online, an offline notice was
asked for right before it, and on the same topic unless the session was configured anew in
between. -/
def Parted (h : Dealings) : Prop :=
  ∀ g g' topic ok between older,
    .asked (.disconnect g) ok :: (between ++ .asked (.online g' topic) true :: older) <:+ h →
    Together between →
    ∃ target taken since, between = .asked (.offline g target) taken :: since ∧
      (.configured ∉ since → target = topic)

/-- Every disconnect that was taken in an attempt that had said online comes after an offline notice
on the same topic that was taken in between. -/
def Withdrawn (h : Dealings) : Prop :=
  ∀ g topic between older,
    .asked (.disconnect g) true :: (between ++ .asked (.online g topic) true :: older) <:+ h →
    Together between → .asked (.offline g topic) true ∈ between

/-! ### What an attempt has said -/

/-- The present attempt has not said online. -/
def Unannounced (h : Dealings) : Prop :=
  ∀ g topic between older, h = between ++ .asked (.online g topic) true :: older →
    ¬Together between

/-- Where the present attempt said online since the last configuration, it was on this topic. -/
def Announced (topic : Bytes) (h : Dealings) : Prop :=
  ∀ g said between older, h = between ++ .asked (.online g said) true :: older →
    Together between → .configured ∉ between → said = topic

/-- How things stand with the notices of a session in a state. -/
structure Noticed (topic : Bytes) (state : SessionState) (h : Dealings) : Prop where
  parted : Parted h
  unannounced : state = .connecting → Unannounced h
  announced : state.announced = true → Announced topic h

variable {topic : Bytes} {state : SessionState} {h : Dealings} {x : Dealing}

/-- A dealing that says online on no topic. -/
def Mute (x : Dealing) : Prop := ∀ g topic, x ≠ .asked (.online g topic) true

/-- What stands before a mute dealing and says online stood there already. -/
lemma Mute.split (hx : Mute x) {g : UInt8} {said : Bytes} {between older : Dealings}
    (he : x :: h = between ++ .asked (.online g said) true :: older) :
    ∃ rest, between = x :: rest ∧ h = rest ++ .asked (.online g said) true :: older := by
  rcases List.cons_eq_append_iff.1 he with ⟨-, he⟩ | ⟨rest, rfl, rfl⟩
  · cases he
    exact absurd rfl (hx g said)
  · exact ⟨rest, rfl, rfl⟩

lemma mute_disconnect (g : UInt8) (ok : Bool) : Mute (.asked (.disconnect g) ok) := nofun

lemma mute_offline (g : UInt8) (topic : Bytes) (taken : Bool) :
    Mute (.asked (.offline g topic) taken) := by
  have hpayload : Session.online ≠ Session.offline := by decide
  simp [Mute, Request.offline, Request.online, hpayload.symm]

lemma Together.tail {rest : Dealings} (hs : Together (x :: rest)) : Together rest :=
  fun y hy => hs y (List.mem_cons_of_mem _ hy)

lemma Parted.cons (hp : Parted h) (hx : ∀ g ok, x ≠ .asked (.disconnect g) ok) :
    Parted (x :: h) := by
  intro g g' topic ok between older hs
  rcases List.suffix_cons_iff.1 hs with he | hs
  · cases he
    exact absurd rfl (hx g ok)
  · exact hp g g' topic ok between older hs

lemma Unannounced.cons (hu : Unannounced h) (hx : Mute x) : Unannounced (x :: h) := by
  intro g said between older he htogether
  obtain ⟨rest, rfl, hrest⟩ := hx.split he
  exact hu g said rest older hrest htogether.tail

lemma Announced.cons (ha : Announced topic h) (hx : Mute x) : Announced topic (x :: h) := by
  intro g said between older he htogether hsetup
  obtain ⟨rest, rfl, hrest⟩ := hx.split he
  exact ha g said rest older hrest htogether.tail fun hmem => hsetup (List.mem_cons_of_mem _ hmem)

lemma unannounced_connect (c : ConnectRequest) (taken : Bool) :
    Unannounced (.asked (.connect c) taken :: h) := by
  intro g said between older he htogether
  have hmute : Mute (.asked (.connect c) taken) := nofun
  obtain ⟨rest, rfl, -⟩ := hmute.split he
  exact absurd (htogether _ List.mem_cons_self) (by simp [Dealing.connects])

/-- Where nothing was said, nothing was said on another topic. -/
lemma Unannounced.announced (hu : Unannounced h) : Announced topic h :=
  fun g said between older he htogether _ => absurd htogether (hu g said between older he)

lemma Announced.online (ha : Announced topic h) (g : UInt8) (taken : Bool) :
    Announced topic (.asked (.online g topic) taken :: h) := by
  intro g' said between older he htogether hsetup
  rcases List.cons_eq_append_iff.1 he with ⟨-, he⟩ | ⟨rest, rfl, hrest⟩
  · cases he
    rfl
  · exact ha g' said rest older hrest htogether.tail
      fun hmem => hsetup (List.mem_cons_of_mem _ hmem)

lemma announced_configured : Announced topic (.configured :: h) := by
  intro g said between older he _ hsetup
  have hmute : Mute .configured := nofun
  obtain ⟨rest, rfl, -⟩ := hmute.split he
  exact absurd List.mem_cons_self hsetup

namespace Noticed

lemma cons (hn : Noticed topic state h) (hx : Mute x)
    (hd : ∀ g ok, x ≠ .asked (.disconnect g) ok) : Noticed topic state (x :: h) where
  parted := hn.parted.cons hd
  unannounced hs := (hn.unannounced hs).cons hx
  announced hs := (hn.announced hs).cons hx

lemma rest (hn : Noticed topic state h) {next : SessionState} (hactive : next.active = false) :
    Noticed topic next h where
  parted := hn.parted
  unannounced hs := by simp [hs, SessionState.active] at hactive
  announced hs := by rw [Session.active_of_announced hs] at hactive; cases hactive

/-- An attempt that has said nothing may be in any state. -/
lemma of_unannounced (hp : Parted h) (hu : Unannounced h) : Noticed topic state h :=
  ⟨hp, fun _ => hu, fun _ => hu.announced⟩

lemma configured (hn : Noticed topic state h) (topic' : Bytes) :
    Noticed topic' state (.configured :: h) where
  parted := hn.parted.cons nofun
  unannounced hs := (hn.unannounced hs).cons nofun
  announced _ := announced_configured

lemma connect (hn : Noticed topic state h) (c : ConnectRequest) (taken : Bool) :
    Noticed topic .connecting (.asked (.connect c) taken :: h) :=
  of_unannounced (hn.parted.cons nofun) (unannounced_connect c taken)

lemma online (hn : Noticed topic .connected h) (g : UInt8) (taken : Bool) :
    Noticed topic .connected (.asked (.online g topic) taken :: h) where
  parted := hn.parted.cons nofun
  unannounced := nofun
  announced _ := (hn.announced rfl).online g taken

lemma disconnect_unannounced (hn : Noticed topic .connecting h) (g : UInt8) (ok : Bool) :
    Noticed topic .connecting (.asked (.disconnect g) ok :: h) := by
  have hu := hn.unannounced rfl
  refine of_unannounced (fun g₁ g₂ said ok' between older hs htogether => ?_)
    (hu.cons (mute_disconnect g ok))
  rcases List.suffix_cons_iff.1 hs with he | hs
  · cases he
    exact absurd htogether (hu g₂ said between older rfl)
  · exact hn.parted g₁ g₂ said ok' between older hs htogether

/-- The offline notice goes to the topic of the online notice. -/
lemma disconnect_announced (hn : Noticed topic state h) (hs : state.announced = true) (g : UInt8)
    (taken ok : Bool) :
    Noticed topic state (.asked (.disconnect g) ok :: .asked (.offline g topic) taken :: h) where
  parted := by
    intro g₁ g₂ said ok' between older hsuffix htogether
    rcases List.suffix_cons_iff.1 hsuffix with he | hsuffix
    · injection he with hg he
      cases hg
      obtain ⟨since, rfl, hsince⟩ := (mute_offline g topic taken).split he.symm
      refine ⟨topic, taken, since, rfl, fun hsetup => ?_⟩
      exact (hn.announced hs g₂ said since older hsince htogether.tail hsetup).symm
    · exact (hn.parted.cons (by simp [Request.offline])) g₁ g₂ said ok' between older hsuffix htogether
  unannounced hc := by simp [hc, SessionState.announced] at hs
  announced _ := ((hn.announced hs).cons (mute_offline g topic taken)).cons (mute_disconnect g ok)

end Noticed

end Dealings

namespace Session

open Chronicle (Silent)
open Dealings

/-- Something that is done to a session. -/
inductive Move
  | configure (c : Config)
  | operate (op : Operation)

/-- The session after a move. -/
def Move.perform (t : Timing) (s : Session) : Move → Program Hardware Session
  | .configure c => (s.configure c).bind fun r => pure r.2
  | .operate op => s.perform t op

/-- What the dealings are told of a move before it begins. -/
def Move.note : Move → Dealings → Dealings
  | .configure _, h => .configured :: h
  | .operate _, h => h

/-- Whatever the surroundings answer, `post` holds of the dealings after the moves. -/
def Deals (t : Timing) (post : Dealings → Prop) : List Move → Session → Dealings → Prop
  | [], _, h => post h
  | m :: rest, s, h =>
    (m.perform t s).Ensures Dealings.surroundings (Deals t post rest) (m.note h)

/-- How things stand between a session and the broker. -/
structure Courteous (s : Session) (h : Dealings) : Prop where
  noticed : Noticed s.topics.availability s.state h
  discovery : s.discovery ≠ online

variable {s : Session} {h : Dealings} (t : Timing) (now : Clock)

/-! ### Payloads -/

lemma record_ne_online (members : List (Bytes × Json)) : (Json.record members).render ≠ online := by
  simp [Json.render, online, ascii]

lemma discovery_ne_online {c : Config} {topics : Topics} {d : Bytes}
    (hd : Document.discovery? c topics = some d) : clip payloadRoom d ≠ online := by
  simp only [Document.discovery?, Option.ite_none_right_eq_some, Option.some.injEq] at hd
  obtain ⟨-, rfl⟩ := hd
  simp [Document.discoveryOf, Json.render, clip, payloadRoom, online, ascii]

/-! ### Programs -/

lemma dealings_unchanged {α : Type} {p : Program Hardware α} {post : α → Prop}
    (hp : p.Confined Silent post) :
    p.Ensures Dealings.surroundings (fun a h' => post a ∧ h' = h) h := by
  refine hp.ensures ?_ rfl
  rintro c _ r _ hc rfl rfl
  cases c with
  | request q => exact hc.elim
  | _ => rfl

lemma transition_noticed {next : SessionState} (hn : Noticed s.topics.availability next h)
    (hd : s.discovery ≠ online) :
    (s.transition next now).Ensures Dealings.surroundings Courteous h := by
  refine (dealings_unchanged (transition_silent now next)).mono ?_
  rintro _ _ ⟨rfl, rfl⟩
  exact ⟨hn, hd⟩

lemma requestOrWarn_dealt {K : Dealings → Prop} {r : Request} (message : Bytes)
    (hK : ∀ taken, K (.asked r taken :: h)) :
    (requestOrWarn r message).Ensures Dealings.surroundings (fun _ h' => K h') h := by
  rintro taken _ rfl
  cases taken with
  | true => exact hK true
  | false =>
    rintro _ _ rfl
    exact hK false

/-- Leave is taken with a notice if there is one to take back. -/
lemma teardown_noticed (hn : Noticed s.topics.availability s.state h) :
    s.teardown.Ensures Dealings.surroundings
      (fun _ h' => Noticed s.topics.availability s.state h') h := by
  have hannounced (ha : s.state.announced = true) :
      s.teardown.Ensures Dealings.surroundings
        (fun _ h' => Noticed s.topics.availability s.state h') h := by
    rw [teardown_eq, if_pos ha, if_pos (active_of_announced ha), ensures_bind]
    refine requestOrWarn_dealt _ fun taken => ?_
    exact requestOrWarn_dealt _ fun ok => hn.disconnect_announced ha s.generation taken ok
  cases hs : s.state with
  | connected => exact hs ▸ hannounced (by rw [hs]; rfl)
  | subscribed => exact hs ▸ hannounced (by rw [hs]; rfl)
  | connecting =>
    rw [teardown_eq, hs]
    rw [hs] at hn
    exact requestOrWarn_dealt _ fun ok => hn.disconnect_unannounced s.generation ok
  | idle => simpa [teardown_eq, hs, SessionState.announced, SessionState.active] using hn
  | backoff => simpa [teardown_eq, hs, SessionState.announced, SessionState.active] using hn

lemma fail_courteous (hs : s.Courteous h) (why : Failure) :
    (s.fail t now why).Ensures Dealings.surroundings Courteous h := by
  refine (teardown_noticed hs.noticed).bind ?_
  rintro _ h hn _ _ rfl
  refine transition_noticed now ?_ ?_
  · exact hn.rest rfl
  · exact hs.discovery

lemma lose_courteous (hs : s.Courteous h) :
    (s.lose t now).Ensures Dealings.surroundings Courteous h := by
  rintro _ _ rfl
  refine transition_noticed now ?_ ?_
  · exact hs.noticed.rest rfl
  · exact hs.discovery

lemma connect_courteous (hs : s.Courteous h) :
    (s.connect t now).Ensures Dealings.surroundings Courteous h := by
  refine (dealings_unchanged (transition_silent now _)).bind ?_
  rintro _ _ ⟨rfl, rfl⟩ taken _ rfl
  have hn := hs.noticed.connect { s.connection with generation := s.generation + 1 } taken
  cases taken with
  | true =>
    rintro _ _ rfl
    exact ⟨hn, hs.discovery⟩
  | false =>
    refine fail_courteous t now ?_ .refused
    exact ⟨hn, hs.discovery⟩

/-- An announcement says online at most once, on the topic of the session. -/
lemma announce_courteous (hs : s.Courteous h) (hstate : s.state = .connected) :
    s.announce.Ensures Dealings.surroundings (fun _ h' => s.Courteous h') h := by
  obtain ⟨hn, hd⟩ := hs
  rw [hstate] at hn
  have hdone {h : Dealings} (hn : Noticed s.topics.availability .connected h) : s.Courteous h :=
    ⟨hstate ▸ hn, hd⟩
  have hmute (taken : Bool) :
      Mute (.asked (.publish s.generation s.topics.discovery s.discovery true) taken) := by
    simp [Mute, Request.online, hd]
  rintro taken _ rfl
  have hn := hn.cons (hmute taken) nofun
  cases taken with
  | false => exact hdone hn
  | true =>
    rintro taken _ rfl
    have hn := hn.online s.generation taken
    cases taken with
    | false => exact hdone hn
    | true =>
      rintro taken _ rfl
      exact hdone (hn.cons nofun nofun)

lemma enterConnected_courteous (hs : s.Courteous h) (hstate : s.state = .connecting) :
    (s.enterConnected t now).Ensures Dealings.surroundings Courteous h := by
  refine (dealings_unchanged (transition_silent now _)).bind ?_
  rintro _ _ ⟨rfl, rfl⟩
  have hn : Noticed s.topics.availability .connected _ :=
    .of_unannounced hs.noticed.parted (hs.noticed.unannounced hstate)
  refine (announce_courteous ?_ ?_).bind fun ok h hs => ?_
  · exact ⟨hn, hs.discovery⟩
  · rfl
  cases ok with
  | true => exact hs
  | false => exact fail_courteous t now hs .announce

lemma publishPending_courteous (hs : s.Courteous h) :
    s.publishPending.Ensures Dealings.surroundings Courteous h := by
  unfold publishPending
  split
  · exact hs
  rintro taken _ rfl
  have hmute : Mute (.asked
      (.publish s.generation s.topics.state (Document.state s.lock s.door) true) taken) := by
    intro g topic he
    simp only [Request.online, Dealing.asked.injEq, Request.publish.injEq] at he
    exact record_ne_online _ he.1.2.2.1
  have hn := hs.noticed.cons hmute nofun
  cases taken with
  | true => exact ⟨hn, hs.discovery⟩
  | false => exact ⟨hn, hs.discovery⟩

lemma enterSubscribed_courteous (hs : s.Courteous h) (hstate : s.state = .connected) :
    (s.enterSubscribed now).Ensures Dealings.surroundings Courteous h := by
  rintro _ _ rfl
  refine (dealings_unchanged (transition_silent now _)).bind ?_
  rintro _ _ ⟨rfl, rfl⟩
  refine publishPending_courteous ⟨?_, ?_⟩
  · exact ⟨hs.noticed.parted, nofun, fun _ => hs.noticed.announced (by rw [hstate]; rfl)⟩
  · exact hs.discovery

/-! ### Moves -/

lemma update_courteous (hs : s.Courteous h) (linkUp : Bool) :
    (s.update t linkUp now).Ensures Dealings.surroundings Courteous h := by
  unfold update
  split
  · exact hs
  split
  · split
    · exact hs
    refine (teardown_noticed hs.noticed).bind fun _ h hn => ?_
    exact transition_noticed now (hn.rest rfl) hs.discovery
  cases s.state with
  | idle => exact connect_courteous t now hs
  | backoff => simp [hs, connect_courteous t now hs]
  | subscribed => exact publishPending_courteous hs
  | _ => simp [hs, fail_courteous t now hs]

lemma handle_courteous (hs : s.Courteous h) (e : Event) :
    (s.handle t e now).Ensures Dealings.surroundings Courteous h := by
  unfold handle
  split
  · exact hs
  split
  · exact hs
  cases e.kind with
  | transportUp => simp +contextual [hs, enterConnected_courteous t now hs]
  | transportFailed => simp [hs, fail_courteous t now hs]
  | subscribed => simp +contextual [hs, enterSubscribed_courteous now hs]
  | publishFailed => simp [hs, fail_courteous t now hs]
  | transportLost => simp [hs, lose_courteous t now hs]
  | message =>
    dsimp only
    split
    · refine (dealings_unchanged (receive_silent now _)).mono ?_
      rintro _ _ ⟨rfl, rfl⟩
      exact hs
    · exact hs
  | _ => exact hs

lemma publish_courteous (hs : s.Courteous h) (l : LockState) (d : DoorState) :
    (s.publish l d).Ensures Dealings.surroundings Courteous h := by
  have hs' : { s with lock := l, door := d, dirty := true }.Courteous h :=
    ⟨hs.noticed, hs.discovery⟩
  unfold publish
  dsimp only
  split
  · exact publishPending_courteous hs'
  · exact hs'

lemma shutdown_courteous (hs : s.Courteous h) :
    (s.shutdown t).Ensures Dealings.surroundings Courteous h := by
  unfold shutdown
  split
  · exact hs
  refine (teardown_noticed hs.noticed).bind fun _ h hn => ?_
  split
  · rintro done _ rfl
    cases done with
    | true => exact ⟨hn, hs.discovery⟩
    | false =>
      rintro _ _ rfl
      exact ⟨hn, hs.discovery⟩
  · exact ⟨hn, hs.discovery⟩

lemma configure_courteous (hs : s.Courteous h) (c : Config) :
    (s.configure c).Ensures Dealings.surroundings (fun r => r.2.Courteous) (.configured :: h) := by
  simp only [configure]
  split
  · rintro _ _ rfl
    exact ⟨hs.noticed.configured _, hs.discovery⟩
  cases hd : Document.discovery? c (s.topics.build c.deviceId.view).2 with
  | none =>
    rintro _ _ rfl
    exact ⟨hs.noticed.configured _, hs.discovery⟩
  | some d =>
    dsimp only
    split
    · rintro _ _ rfl
      exact ⟨hs.noticed.configured _, discovery_ne_online hd⟩
    · exact ⟨hs.noticed.configured _, discovery_ne_online hd⟩

lemma perform_courteous (hs : s.Courteous h) (m : Move) :
    (m.perform t s).Ensures Dealings.surroundings Courteous (m.note h) := by
  cases m with
  | configure c => exact (configure_courteous hs c).bind fun r h hs => hs
  | operate op =>
    cases op with
    | update linkUp now => exact update_courteous t now hs linkUp
    | handle e now => exact handle_courteous t now hs e
    | publish l d => exact publish_courteous hs l d
    | shutdown => exact shutdown_courteous t hs

lemma new_courteous : Courteous {} [] where
  noticed := .of_unannounced (by simp [Parted]) (by simp [Unannounced])
  discovery := by decide

/-- **No leave without a notice**: whatever is done to a session and whatever the transport takes,
each disconnect that is asked for in an attempt that had said online comes right after an offline
notice was asked for, on the topic of the online notice unless the session was configured anew in
between. -/
theorem offline_before_disconnect (t : Timing) (moves : List Move) : Deals t Parted moves {} [] := by
  have hkeep {s : Session} {h : Dealings} (hs : s.Courteous h) : Deals t Parted moves s h := by
    induction moves generalizing s h with
    | nil => exact hs.noticed.parted
    | cons m rest ih => exact (perform_courteous t hs m).mono fun s h hs => ih hs
  exact hkeep new_courteous

/-! ### A notice that stays -/

/-- A session and its dealings after moves among given surroundings. -/
def dealt (E : Environment Hardware Dealings) (t : Timing) :
    List Move → Session → Dealings → Session × Dealings
  | [], s, h => (s, h)
  | m :: rest, s, h =>
    let r := (m.perform t s).run E (m.note h)
    dealt E t rest r.1 r.2

/-- **Soundness**: what holds whatever the surroundings answer holds among given ones. -/
theorem Deals.dealt {E : Environment Hardware Dealings} (hE : E.Follows Dealings.surroundings id)
    {t : Timing} {post : Dealings → Prop} (moves : List Move) {s : Session} {h : Dealings}
    (hd : Deals t post moves s h) : post (dealt E t moves s h).2 := by
  induction moves generalizing s h with
  | nil => exact hd
  | cons m rest ih => exact ih (Ensures.run hE hd)

end Session

namespace Dealings

/-- Hardware on which nothing fails, but that the transport refuses some requests. -/
def refusing (refused : Request → Bool) : Environment Hardware Dealings where
  respond
    | .request r, h => (!refused r, .asked r (!refused r) :: h)
    | .storedLength _, h => (0, h)
    | .storedRead _ _, h | .deviceId _, h => ([], h)
    | .storedWrite _ v, h => (v.length, h)
    | .take, h => (none, h)
    | .radioStatus, h => (.up, h)
    | .pinRead _, h | .startAccessPoint _ _, h | .startStation _ _, h | .flush _, h
    | .storedRemove _, h | .post _, h | .offer _, h => (true, h)
    | .pinOutput _, h | .pinInput _, h | .pinWrite _ _, h | .stopRadio, h | .light _ _ _, h
    | .restart, h | .log _, h => ((), h)

lemma refusing_follows (refused : Request → Bool) :
    (refusing refused).Follows surroundings id := by
  intro c h
  cases c <;> rfl

lemma not_withdrawn {h : Dealings} (topic : Bytes) (n : Nat)
    (hh : h = .asked (.disconnect 1) true ::
      (h.tail.take n ++ .asked (.online 1 topic) true :: h.tail.drop (n + 1)))
    (htogether : Together (h.tail.take n))
    (hoffline : .asked (.offline 1 topic) true ∉ h.tail.take n) : ¬Withdrawn h :=
  fun hw => hoffline (hw 1 topic _ _ ⟨[], hh.symm⟩ htogether)

end Dealings

namespace Session

open Dealings

/-- A device that is announced and then loses its link, with a new name in between or not. -/
def announcedThen (moves : List Move) : List Move :=
  [.configure { deviceId := .ofBytes (ascii "front1") }, .operate (.update true 0),
    .operate (.handle { kind := .transportUp, time := 0, arg := 1 } 0)] ++ moves ++
    [.operate (.update false 0)]

/-- The dealings of an announced device that loses its link when the transport takes no offline
notice. -/
def unheard : Dealings :=
  (dealt (refusing fun r => r = .offline 1 (Topics.availabilityOf (ascii "front1"))) {}
    (announcedThen []) {} []).2

/-- The dealings of a device that is given a new name before it loses its link. -/
def renamed : Dealings :=
  (dealt (refusing fun _ => false) {}
    (announcedThen [.configure { deviceId := .ofBytes (ascii "back2") }]) {} []).2

set_option maxRecDepth 100000 in
/-- A notice stays when its withdrawal is refused, and when it goes to a new topic. -/
theorem online_left_standing :
    (¬Withdrawn unheard ∧ ¬Withdrawn renamed) ∧ ¬∀ t moves, Deals t Withdrawn moves {} [] := by
  have hunheard : ¬Withdrawn unheard :=
    not_withdrawn (Topics.availabilityOf (ascii "front1")) 2 (by decide +kernel)
      (by decide +kernel) (by decide +kernel)
  have hrenamed : ¬Withdrawn renamed :=
    not_withdrawn (Topics.availabilityOf (ascii "front1")) 3 (by decide +kernel)
      (by decide +kernel) (by decide +kernel)
  exact ⟨⟨hunheard, hrenamed⟩,
    fun h => hunheard ((h {} (announcedThen [])).dealt (refusing_follows _))⟩

end Session

end DoorControl
