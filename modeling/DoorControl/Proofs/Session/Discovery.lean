import DoorControl.Proofs.Config.ShortReads
import DoorControl.Proofs.Json
import DoorControl.Proofs.Session.Wording

/-!
The documents of the device as others read them. The discovery document is JSON that has the name of
the device and its topics, and for the lock and the door the commands that the device takes and the
states that its state document shows.
-/

namespace DoorControl

open Bytes Json

namespace Document

/-! ### What the documents stand for -/

variable {id : Bytes} {t : Topics}

lemma bare_lock (l : LockState) : bare l.name = true := by
  unfold LockState.name
  split_ifs <;> decide

lemma bare_door (d : DoorState) : bare d.name = true := by
  unfold DoorState.name
  split_ifs <;> decide

lemma state_tells (l : LockState) (d : DoorState) :
    Tells (state l d) (.record [(ascii "lock", .text l.name), (ascii "door", .text d.name)]) := by
  have hplain : (Json.record
      [(ascii "lock", .text l.name), (ascii "door", .text d.name)]).plain = true := by
    simp only [plain, plainMembers, bare_lock l, bare_door d]
    decide
  exact (means_asWritten _ hplain).tells

def components (id : Bytes) (t : Topics) : List (Bytes × Value) := [
  (id ++ ascii "_lock", (lockComponent id t).asWritten),
  (id ++ ascii "_door", (doorComponent id t).asWritten)]

/-- All of it is meant as it is written, but the name is what was escaped. -/
def discoveryValue (id name : Bytes) (t : Topics) : Value := .record <|
  (ascii "device", .record [
    (ascii "identifiers", .list [.text id]),
    (ascii "name", .text name)]) ::
  membersAsWritten (discoveryOf id name t).members.tail

/-- The name may have any bytes. -/
lemma discoveryOf_means (hid : bare id = true) (hstate : bare t.state = true)
    (havailability : bare t.availability = true) (hcommand : bare t.command = true) (name : Bytes) :
    Means (discoveryOf id name t) (discoveryValue id name t) := by
  have hlock : bare (id ++ ascii "_lock") = true := bare_append hid (by decide)
  have hdoor : bare (id ++ ascii "_door") = true := bare_append hid (by decide)
  have hids := means_list (.cons (means_text (.bare hid)) .nil)
  have hname := means_text (.escape name)
  have hdevice : List.Forall₂ MemberMeans
      [(ascii "identifiers", .list [.text id]), (ascii "name", .text (escape name))]
      [(ascii "identifiers", .list [.text id]), (ascii "name", .text name)] :=
    .cons ⟨.bare rfl, hids⟩ (.cons ⟨.bare rfl, hname⟩ .nil)
  have hrest : plainMembers (discoveryOf id name t).members.tail = true := by
    simp only [discoveryOf, members, List.tail_cons, lockComponent, doorComponent, plain,
      plainMembers, hlock, hdoor, hstate, havailability, hcommand]
    decide
  exact means_record (.cons ⟨.bare rfl, means_record hdevice⟩ (means_members _ hrest))

/-! ### Where the values stand -/

variable {name k : Bytes} {x : Value}

/-- Each component is found under its own key. -/
lemma member_component {c : Value} (hc : (k, c) ∈ components id t) :
    (Value.record (components id t)).member? k = some c := by
  have hkeys : ((components id t).map Prod.fst).Nodup := by
    have hapart : ascii "_lock" ≠ ascii "_door" := by decide
    simp [components, hapart]
  exact Value.member?_of_mem hkeys hc

lemma at_component {c : Value} {key : Bytes} (hc : (key, c) ∈ components id t)
    (hx : c.member? k = some x) :
    (discoveryValue id name t).at? [ascii "components", key, k] = some x := by
  have hcomponents : (discoveryValue id name t).member? (ascii "components") =
      some (.record (components id t)) := rfl
  simp only [Value.at?, List.foldlM_cons, List.foldlM_nil, hcomponents, member_component hc, hx,
    Option.bind_eq_bind, Option.bind_some]
  rfl

lemma at_lock (hx : (lockComponent id t).asWritten.member? k = some x) :
    (discoveryValue id name t).at? [ascii "components", id ++ ascii "_lock", k] = some x :=
  at_component List.mem_cons_self hx

lemma at_door (hx : (doorComponent id t).asWritten.member? k = some x) :
    (discoveryValue id name t).at? [ascii "components", id ++ ascii "_door", k] = some x :=
  at_component (List.mem_cons_of_mem _ List.mem_cons_self) hx

/-- What the discovery document has to tell of a device: its name, its topics, the commands as the
device takes them, and the states as its state document shows them. -/
structure Describes (id name : Bytes) (t : Topics) (v : Value) : Prop where
  name : v.at? [ascii "device", ascii "name"] = some (.text name)
  components : ∃ l d, v.at? [ascii "components"] =
    some (.record [(id ++ ascii "_lock", l), (id ++ ascii "_door", d)])
  lockTopic : v.at? [ascii "components", id ++ ascii "_lock", ascii "state_topic"] =
    some (.text t.state)
  doorTopic : v.at? [ascii "components", id ++ ascii "_door", ascii "state_topic"] =
    some (.text t.state)
  commandTopic : v.at? [ascii "components", id ++ ascii "_lock", ascii "command_topic"] =
    some (.text t.command)
  availability : v.at? [ascii "availability_topic"] = some (.text t.availability)
  lock : ∃ p, v.at? [ascii "components", id ++ ascii "_lock", ascii "payload_lock"] =
    some (.text p) ∧ LockState.ofCommand? p = some .locked
  unlock : ∃ p, v.at? [ascii "components", id ++ ascii "_lock", ascii "payload_unlock"] =
    some (.text p) ∧ LockState.ofCommand? p = some .unlocked
  locked : ∃ x, v.at? [ascii "components", id ++ ascii "_lock", ascii "state_locked"] = some x ∧
    ∀ d, Has (state .locked d) [ascii "lock"] x
  unlocked : ∃ x, v.at? [ascii "components", id ++ ascii "_lock", ascii "state_unlocked"] = some x ∧
    ∀ d, Has (state .unlocked d) [ascii "lock"] x
  opened : ∃ x, v.at? [ascii "components", id ++ ascii "_door", ascii "payload_on"] = some x ∧
    ∀ l, Has (state l .opened) [ascii "door"] x
  closed : ∃ x, v.at? [ascii "components", id ++ ascii "_door", ascii "payload_off"] = some x ∧
    ∀ l, Has (state l .closed) [ascii "door"] x

lemma state_lock (l : LockState) (d : DoorState) :
    Has (state l d) [ascii "lock"] (.text l.name) := (state_tells l d).has rfl

lemma state_door (l : LockState) (d : DoorState) :
    Has (state l d) [ascii "door"] (.text d.name) := (state_tells l d).has rfl

lemma discoveryValue_describes (id name : Bytes) (t : Topics) :
    Describes id name t (discoveryValue id name t) where
  name := rfl
  components := ⟨_, _, rfl⟩
  lockTopic := at_lock rfl
  doorTopic := at_door rfl
  commandTopic := at_lock rfl
  availability := rfl
  lock := ⟨_, at_lock rfl, by decide⟩
  unlock := ⟨_, at_lock rfl, by decide⟩
  locked := ⟨_, at_lock rfl, state_lock _⟩
  unlocked := ⟨_, at_lock rfl, state_lock _⟩
  opened := ⟨_, at_door rfl, fun l => state_door l _⟩
  closed := ⟨_, at_door rfl, fun l => state_door l _⟩

/-- **The discovery document is well formed.** Of every complete configuration whose id needs no
escape it fits its buffer and is JSON, for one value only, that describes the device. -/
theorem discovery_describes {c : Config} (hc : c.complete = true)
    (hid : ∀ b ∈ c.deviceId.view, b ≠ 34 ∧ b ≠ 92 ∧ 32 ≤ b) (t : Topics) :
    let built := t.build c.deviceId.view
    built.1 = true ∧ ∃ d v, discovery? c built.2 = some d ∧ d.length < 1536 ∧
      Tells d v ∧ (∀ v', Tells d v' → v' = v) ∧
      Describes c.deviceId.view c.deviceName.view built.2 v := by
  have hnamed := t.build_fits (Config.length_of_complete hc).1
  have htopics : (t.build c.deviceId.view).2 = .of c.deviceId.view := Topics.build_eq hnamed
  have hbare : bare c.deviceId.view = true := by
    refine List.all_eq_true.2 fun b hb => ?_
    obtain ⟨hquote, hback, hcontrol⟩ := hid b hb
    simp [isPlain, hquote, hback, hcontrol]
  have htopic {before behind : Bytes} (h : bare before = true) (h' : bare behind = true) :
      bare (before ++ c.deviceId.view ++ behind) = true := bare_append (bare_append h hbare) h'
  have hmeans : Means (discoveryOf c.deviceId.view c.deviceName.view (.of c.deviceId.view)) _ :=
    discoveryOf_means hbare (htopic (by decide) (by decide)) (htopic (by decide) (by decide))
      (htopic (by decide) (by decide)) c.deviceName.view
  obtain ⟨hdocument, hroom⟩ := discovery?_complete hc
  dsimp only
  rw [htopics]
  exact ⟨hnamed, _, _, hdocument, fits_iff.1 hroom, hmeans.tells, fun _ h => h.unique hmeans.tells,
    discoveryValue_describes _ _ _⟩

/-- A name with a quote, a backslash and a control character. -/
theorem awkward_name_described :
    let c := Store.named (ascii "\"Annas\" \\ \tdoor")
    let built := ({} : Topics).build c.deviceId.view
    c.complete = true ∧ (∀ b ∈ c.deviceId.view, b ≠ 34 ∧ b ≠ 92 ∧ 32 ≤ b) ∧
    built.1 = true ∧ ∃ d v, discovery? c built.2 = some d ∧ d.length < 1536 ∧
      Tells d v ∧ (∀ v', Tells d v' → v' = v) ∧
      Describes c.deviceId.view c.deviceName.view built.2 v := by
  intro c
  have hc : c.complete = true := by decide +kernel
  have hid : ∀ b ∈ c.deviceId.view, b ≠ 34 ∧ b ≠ 92 ∧ 32 ≤ b := by decide +kernel
  exact ⟨hc, hid, discovery_describes hc hid {}⟩

end Document

end DoorControl
