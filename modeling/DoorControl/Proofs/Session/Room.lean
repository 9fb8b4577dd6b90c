import DoorControl.Proofs.Session.Chronicle

/-!
The room for topics and documents is enough for every complete configuration: a session can always
be set up with one.
-/

namespace DoorControl

open Bytes Program

/-! ### Texts of a complete configuration -/

lemma Text.length_view_of_present {w : Nat} {t : Text w} (h : t.present = true) :
    0 < t.view.length ∧ t.view.length < w := by
  simp only [present, Bool.and_eq_true, bne_iff_ne] at h
  exact ⟨List.length_pos_iff.2 h.2, terminated_iff.1 h.1⟩

/-- The id of a complete configuration has up to 15 bytes, and its name up to 63. -/
lemma Config.length_of_complete {c : Config} (h : c.complete = true) :
    (0 < c.deviceId.view.length ∧ c.deviceId.view.length < 16) ∧
      c.deviceName.view.length < 64 := by
  simp only [complete, Bool.and_eq_true] at h
  obtain ⟨⟨⟨-, hid⟩, hname⟩, -⟩ := h
  exact ⟨Text.length_view_of_present hid, (Text.length_view_of_present hname).2⟩

/-! ### Topics -/

namespace Topics

variable {id : Bytes}

lemma length_named (id : Bytes) : (discoveryOf id).length = 28 + id.length ∧
    (stateOf id).length = 14 + id.length ∧ (availabilityOf id).length = 21 + id.length ∧
      (commandOf id).length = 12 + id.length := by
  simp [discoveryOf, stateOf, availabilityOf, commandOf, ascii]
  omega

lemma build_fits (t : Topics) (hid : 0 < id.length ∧ id.length < 16) : (t.build id).1 = true := by
  obtain ⟨hd, hs, ha, hc⟩ := length_named id
  have hne : id ≠ [] := List.ne_nil_of_length_pos hid.1
  have hfits {s : Bytes} (h : s.length < 64) : fits room s = true := fits_iff.2 h
  simp [build, hne, hfits (s := discoveryOf id) (by omega), hfits (s := stateOf id) (by omega),
    hfits (s := availabilityOf id) (by omega), hfits (s := commandOf id) (by omega)]

end Topics

/-! ### Documents -/

/-- Escaping makes up to six bytes of one. -/
lemma Json.length_escape_le (s : Bytes) : (Json.escape s).length ≤ 6 * s.length := by
  induction s with
  | nil => simp [Json.escape]
  | cons b s ih =>
    have hb : (Json.escapeByte b).length ≤ 6 := by
      unfold Json.escapeByte
      split_ifs <;> simp [ascii, hexPair]
    simp only [Json.escape, List.flatMap_cons, List.length_append, List.length_cons] at ih ⊢
    omega

namespace Document

lemma length_ascii (s : String) : (ascii s).length = s.toList.length := by
  simp [ascii]

lemma length_lockComponent (id : Bytes) (t : Topics) : (lockComponent id t).render.length =
    264 + id.length + t.state.length + t.command.length := by
  simp [lockComponent, Json.render, Json.renderMembers, Json.quoted, length_ascii, LockState.name,
    LockState.locked, LockState.unlocked]
  omega

lemma length_doorComponent (id : Bytes) (t : Topics) : (doorComponent id t).render.length =
    185 + id.length + t.state.length := by
  simp [doorComponent, Json.render, Json.renderMembers, Json.quoted, length_ascii, DoorState.name,
    DoorState.opened, DoorState.closed]
  omega

lemma length_discoveryOf (id name : Bytes) (t : Topics) :
    (discoveryOf id name t).render.length = 633 + 5 * id.length + (Json.escape name).length +
      2 * t.state.length + t.command.length + t.availability.length := by
  have hone : (decimal 1).length = 1 := by decide
  simp [discoveryOf, Json.render, Json.renderMembers, Json.renderItems, Json.quoted, length_ascii,
    hone, length_lockComponent, length_doorComponent]
  omega

end Document

/-- The documents of a complete configuration fit. -/
lemma Document.discovery_fits {c : Config} (hc : c.complete = true) {t : Topics}
    (ht : (t.build c.deviceId.view).1 = true) :
    ∃ d, discovery? c (t.build c.deviceId.view).2 = some d ∧ fits Session.payloadRoom d = true := by
  obtain ⟨⟨-, hid⟩, hname⟩ := Config.length_of_complete hc
  obtain ⟨-, hstate, havailability, hcommand⟩ := Topics.length_named c.deviceId.view
  have hescape := Json.length_escape_le c.deviceName.view
  have hroom : fits nameRoom (Json.escape c.deviceName.view) = true :=
    fits_iff.2 (by unfold nameRoom; omega)
  refine ⟨_, if_pos hroom, fits_iff.2 ?_⟩
  rw [length_discoveryOf, Topics.build_eq ht, hstate, havailability, hcommand, Session.payloadRoom]
  omega

namespace Session

/-- What becomes of a session that is set up. -/
structure SetUp (s s' : Session) : Prop where
  configured : s'.configured = true
  stopped : s'.stopped = s.stopped
  state : s'.state = s.state
  distinct : s'.wording.Distinct

lemma configure_complete (s : Session) {c : Config} (hc : c.complete = true) :
    ∃ s', s.configure c = pure (true, s') ∧ s.SetUp s' := by
  have hnamed := s.topics.build_fits (Config.length_of_complete hc).1
  obtain ⟨d, hd, hfits⟩ := Document.discovery_fits hc hnamed
  simp only [configure, hnamed, hd, hfits, Bool.not_true, Bool.false_eq_true, if_false]
  exact ⟨_, rfl, rfl, rfl, rfl, Topics.build_distinct hnamed, Topics.build_apart hnamed⟩

end Session

end DoorControl
