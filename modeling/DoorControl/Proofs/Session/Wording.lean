import DoorControl.Proofs.Parts
import DoorControl.Proofs.Session.Room

/-!
What a session says to the transport is what it was set up to say, and a complete configuration sets
it up in full: no text of it is cut.
-/

namespace DoorControl

open Bytes Program

/-! ### Keeping to the wording -/

/-- The request is one that the wording has for some attempt. -/
def Wording.Covers (w : Wording) (r : Request) : Prop := ∃ g reports, r ∈ w.script g reports

lemma Wording.Covers.connect {w : Wording} {c : ConnectRequest} (h : w.Covers (.connect c)) :
    c = { w.connection with generation := c.generation } := by
  obtain ⟨g, reports, hr⟩ := h
  rcases mem_script.1 hr with hconnect | hr | ⟨x, -, hr⟩ | hr | hr
  · obtain rfl := Request.connect.inj hconnect
    rfl
  · simp [announcement] at hr
  · cases hr
  · cases hr
  · cases hr

namespace Session

/-- The calls of a session that keeps to its wording. -/
def Utters (w : Wording) : Hardware.Call → Prop
  | .request r => w.Covers r
  | .flush _ | .log _ | .post _ => True
  | _ => False

variable {s : Session} {w : Wording} (t : Timing) (now : Clock)

lemma transition_utters (h : s.wording = w) (next : SessionState) :
    (s.transition next now).Confined (Utters w) (·.wording = w) := by
  unfold transition
  split
  · exact h
  · exact (Hardware.postOrWarn_confined _ trivial fun _ => trivial).bind fun _ _ => h

lemma covers_offline (h : s.wording = w) :
    w.Covers (.publish s.generation s.topics.availability offline true) :=
  ⟨s.generation, [], Wording.mem_script.2 (.inr (.inr (.inr (.inl (h ▸ rfl)))))⟩

lemma covers_disconnect (g : UInt8) : w.Covers (.disconnect g) :=
  ⟨g, [], Wording.mem_script.2 (.inr (.inr (.inr (.inr rfl))))⟩

lemma covers_connect (h : s.wording = w) : w.Covers (.connect s.connection) :=
  ⟨s.connection.generation, [], Wording.mem_script.2 (.inl (h ▸ rfl))⟩

lemma covers_announcement (h : s.wording = w) {r : Request}
    (hr : r ∈ s.wording.announcement s.generation) : w.Covers r :=
  ⟨s.generation, [], Wording.mem_script.2 (.inr (.inl (h ▸ hr)))⟩

lemma covers_report (h : s.wording = w) :
    w.Covers (.publish s.generation s.topics.state (Document.state s.lock s.door) true) :=
  ⟨s.generation, [(s.lock, s.door)],
    Wording.mem_script.2 (.inr (.inr (.inl ⟨_, List.mem_singleton_self _, h ▸ rfl⟩)))⟩

lemma requestOrWarn_utters {r : Request} (hr : w.Covers r) (message : Bytes) :
    (requestOrWarn r message).Confined (Utters w) fun _ => True := by
  refine ⟨hr, fun taken => ?_⟩
  cases taken with
  | true => trivial
  | false => exact ⟨trivial, fun _ => trivial⟩

lemma utters_where {b : Prop} [Decidable b] {p : Program Hardware Unit}
    (h : b → p.Confined (Utters w) fun _ => True) :
    (if b then p else pure ()).Confined (Utters w) fun _ => True :=
  (confined_ite b _ _ _).2 ⟨h, fun _ => trivial⟩

lemma teardown_utters (h : s.wording = w) : s.teardown.Confined (Utters w) fun _ => True := by
  rw [teardown_eq]
  exact (utters_where fun _ => requestOrWarn_utters (covers_offline h) _).bind fun _ _ =>
    utters_where fun _ => requestOrWarn_utters (covers_disconnect s.generation) _

lemma fail_utters (h : s.wording = w) (why : Failure) :
    (s.fail t now why).Confined (Utters w) (·.wording = w) :=
  (teardown_utters h).bind fun _ _ => ⟨trivial, fun _ => transition_utters now (by exact h) _⟩

lemma lose_utters (h : s.wording = w) : (s.lose t now).Confined (Utters w) (·.wording = w) :=
  ⟨trivial, fun _ => transition_utters now (by exact h) _⟩

lemma connect_utters (h : s.wording = w) : (s.connect t now).Confined (Utters w) (·.wording = w) := by
  refine (transition_utters now (by exact h) _).bind fun s' h' => ?_
  refine ⟨covers_connect h', fun taken => ?_⟩
  cases taken with
  | true => exact ⟨trivial, fun _ => h'⟩
  | false => exact fail_utters t now h' _

lemma announce_utters (h : s.wording = w) : s.announce.Confined (Utters w) fun _ => True := by
  have hsaid := fun r => covers_announcement (r := r) h
  simp only [Wording.announcement, List.forall_mem_cons] at hsaid
  obtain ⟨hdiscovery, honline, hcommand, -⟩ := hsaid
  refine ⟨hdiscovery, fun taken => ?_⟩
  cases taken with
  | false => trivial
  | true =>
    refine ⟨honline, fun taken => ?_⟩
    cases taken with
    | false => trivial
    | true => exact ⟨hcommand, fun _ => trivial⟩

lemma enterConnected_utters (h : s.wording = w) :
    (s.enterConnected t now).Confined (Utters w) (·.wording = w) := by
  refine (transition_utters now h _).bind fun s' h' => (announce_utters h').bind fun ok _ => ?_
  cases ok with
  | true => exact h'
  | false => exact fail_utters t now h' _

lemma publishPending_utters (h : s.wording = w) :
    s.publishPending.Confined (Utters w) (·.wording = w) := by
  unfold publishPending
  split
  · exact h
  · refine ⟨covers_report h, fun taken => ?_⟩
    cases taken <;> exact h

lemma enterSubscribed_utters (h : s.wording = w) :
    (s.enterSubscribed now).Confined (Utters w) (·.wording = w) := by
  refine ⟨trivial, fun _ => (transition_utters now (by exact h) _).bind fun s' h' => ?_⟩
  exact publishPending_utters h'

lemma update_utters (h : s.wording = w) (linkUp : Bool) :
    (s.update t linkUp now).Confined (Utters w) (·.wording = w) := by
  unfold update
  split
  · exact h
  split
  · split
    · exact h
    · exact (teardown_utters h).bind fun _ _ => transition_utters now h _
  cases s.state with
  | idle => exact connect_utters t now h
  | backoff => simp [connect_utters t now h, h]
  | connecting => simp [fail_utters t now h, h]
  | connected => simp [fail_utters t now h, h]
  | subscribed => exact publishPending_utters h

lemma receive_utters (h : s.wording = w) (payload : Bytes) :
    (s.receive payload now).Confined (Utters w) (·.wording = w) := by
  unfold receive
  cases LockState.ofCommand? payload <;> simp [h, Utters]

lemma handle_utters (h : s.wording = w) (e : Event) :
    (s.handle t e now).Confined (Utters w) (·.wording = w) := by
  unfold handle
  split
  · exact h
  split
  · exact h
  cases e.kind with
  | transportUp => simp [enterConnected_utters t now h, h]
  | transportFailed => simp [fail_utters t now h, h]
  | subscribed => simp [enterSubscribed_utters now h, h]
  | publishFailed => simp [fail_utters t now h, h]
  | transportLost => simp [lose_utters t now h, h]
  | message => simp [receive_utters now h, h]
  | _ => exact h

lemma publish_utters (h : s.wording = w) (l : LockState) (d : DoorState) :
    (s.publish l d).Confined (Utters w) (·.wording = w) := by
  unfold publish
  dsimp only
  split
  · exact publishPending_utters h
  · exact h

lemma shutdown_utters (h : s.wording = w) :
    (s.shutdown t).Confined (Utters w) (·.wording = w) := by
  unfold shutdown
  split
  · exact h
  refine (teardown_utters h).bind fun _ _ => ?_
  split
  · refine ⟨trivial, fun done => ?_⟩
    cases done with
    | true => exact h
    | false => exact ⟨trivial, fun _ => h⟩
  · exact h

end Session

/-! ### The wording of a configuration -/

/-- The topics of a device in full. -/
def Topics.of (id : Bytes) : Topics := ⟨discoveryOf id, stateOf id, availabilityOf id, commandOf id⟩

/-- What a session is to say for a configuration, with all of its texts in full. -/
def Config.wording (c : Config) : Wording where
  connection := {
    host := c.mqttHost.view
    port := c.mqttPort
    user := c.mqttUser.view
    pass := c.mqttPass.view
    tls := c.mqttTls
    clientId := Session.clientId c.deviceId.view
    willTopic := Topics.availabilityOf c.deviceId.view }
  topics := .of c.deviceId.view
  discovery := (Document.discoveryOf c.deviceId.view c.deviceName.view (.of c.deviceId.view)).render

/-- Every text fits the room that the session has for it, its closing zero included. -/
structure Wording.Fits (w : Wording) : Prop where
  topics : ∀ topic ∈ [w.topics.discovery, w.topics.state, w.topics.availability, w.topics.command],
    topic.length < 64
  discovery : w.discovery.length < 1536
  connection : ∀ text ∈ [w.connection.host, w.connection.user, w.connection.pass,
    w.connection.willTopic], text.length < 64
  clientId : w.connection.clientId.length < 32

variable {c : Config}

lemma Document.discovery?_complete (hc : c.complete = true) :
    discovery? c (.of c.deviceId.view) = some c.wording.discovery ∧
      fits Session.payloadRoom c.wording.discovery = true := by
  have hnamed := Topics.build_fits {} (Config.length_of_complete hc).1
  obtain ⟨d, hd, hfits⟩ := discovery_fits hc hnamed
  rw [Topics.build_eq hnamed] at hd
  have hfull : c.wording.discovery = d := by
    unfold discovery? at hd
    split at hd
    · exact Option.some.inj hd
    · cases hd
  exact hfull ▸ ⟨hd, hfits⟩

lemma Config.wording_fits (hc : c.complete = true) : c.wording.Fits := by
  obtain ⟨hid, -⟩ := length_of_complete hc
  obtain ⟨hdiscovery, hstate, havailability, hcommand⟩ := Topics.length_named c.deviceId.view
  have hwill : (Topics.availabilityOf c.deviceId.view).length < 64 := by omega
  refine ⟨?_, fits_iff.1 (Document.discovery?_complete hc).2, ?_, ?_⟩
  · simp only [wording, Topics.of, List.forall_mem_cons]
    exact ⟨by omega, by omega, hwill, by omega, nofun⟩
  · simp only [complete, Bool.and_eq_true] at hc
    obtain ⟨⟨⟨⟨⟨⟨⟨-, -⟩, hhost⟩, hpass⟩, huser⟩, -⟩, -⟩, -⟩ := hc
    simp only [wording, List.forall_mem_cons]
    exact ⟨(Text.length_view_of_present hhost).2, Text.terminated_iff.1 huser,
      (Text.length_view_of_present hpass).2, hwill, nofun⟩
  · have hprefix : (Session.clientId c.deviceId.view).length = 8 + c.deviceId.view.length := by
      simp [Session.clientId, ascii]
      omega
    change (Session.clientId c.deviceId.view).length < 32
    omega

namespace Session

lemma connectionOf_complete (hc : c.complete = true) :
    connectionOf c (.of c.deviceId.view) = c.wording.connection := by
  have htexts := (Config.wording_fits hc).connection
  simp only [List.forall_mem_cons] at htexts
  obtain ⟨hhost, huser, hpass, hwill, -⟩ := htexts
  have hclip {room : Nat} {text : Bytes} (h : text.length < room) : clip room text = text :=
    clip_eq_self (fits_iff.2 h)
  unfold connectionOf
  rw [show clip 64 c.mqttHost.view = _ from hclip hhost,
    show clip 64 c.mqttUser.view = _ from hclip huser,
    show clip 64 c.mqttPass.view = _ from hclip hpass,
    show clip 64 (Topics.of c.deviceId.view).availability = _ from hclip hwill,
    show clip 32 (clientId c.deviceId.view) = _ from hclip (Config.wording_fits hc).clientId]
  rfl

lemma configure_wording (s : Session) (hc : c.complete = true) :
    ∃ s', s.configure c = pure (true, s') ∧ s'.configured = true ∧ s'.wording = c.wording := by
  have hnamed := s.topics.build_fits (Config.length_of_complete hc).1
  have htopics : (s.topics.build c.deviceId.view).2 = .of c.deviceId.view := Topics.build_eq hnamed
  obtain ⟨hdocument, hroom⟩ := Document.discovery?_complete hc
  simp only [configure, hnamed, htopics, hdocument, hroom, Bool.not_true, Bool.false_eq_true,
    if_false]
  refine ⟨_, rfl, rfl, ?_⟩
  simp only [wording, connectionOf_complete hc, clip_eq_self hroom]
  rfl

end Session

end DoorControl
