import DoorControl.Proofs.Device.Traffic

/-!
The way of a door or lock change through the event queue. The strike reports a change once; a full
queue refuses the report, and then nothing tells the rest of the device of the change until the next
one.
-/

namespace DoorControl

open Program

/-! ### The door in a snapshot -/

namespace Snapshot

lemma getElem_of_le_one {c : UInt8} (h : c ≤ 1) (i : Nat) (hi : i + 1 < 8) :
    c.toBitVec[i + 1] = false := by
  have hc : c.toNat < 2 ^ 1 := Nat.lt_succ_of_le h
  exact Nat.testBit_lt_two_pow
    (Nat.lt_of_lt_of_le hc (Nat.pow_le_pow_right Nat.two_pos (Nat.le_add_left 1 i)))

/-- A snapshot keeps two bits of the door, and no other code spills into them. -/
lemma pack_door (s : SystemState) (h : s.lock.code ≤ 1) :
    (pack s).door.code = s.door.code &&& 3 := by
  refine UInt8.toBitVec_inj.1 (BitVec.eq_of_getElem_eq fun i hi => ?_)
  unfold door bits pack
  obtain rfl | rfl | hi' : i = 0 ∨ i = 1 ∨ 2 ≤ i := by omega
  · simp [getElem_of_le_one h 0]
  · simp [getElem_of_le_one h 1]
  · have h3 : (3#8)[i] = false := Nat.testBit_lt_two_pow
      (Nat.lt_of_lt_of_le (by decide : 3 < 2 ^ 2) (Nat.pow_le_pow_right Nat.two_pos hi'))
    simp [h3]

lemma and_three {c : UInt8} (h : c ≤ 2) : c &&& 3 = c := by
  have hc : c.toNat ≤ 2 := h
  refine UInt8.toNat_inj.1 ?_
  rw [UInt8.toNat_and]
  obtain h | h | h : c.toNat = 0 ∨ c.toNat = 1 ∨ c.toNat = 2 := by omega
  all_goals rw [h]; rfl

end Snapshot

/-! ### What was reported -/

/-- What a moment reports of a kind of event, if the device itself posts it. -/
def Moment.report? (k : EventKind) : Moment → Option UInt8
  | .posted own e _ => if own ∧ e.kind = k then some e.arg else none
  | .handled _ => none

/-- What a moment puts into the queue of a kind of event, whoever posts it. -/
def Moment.accepted? (k : EventKind) : Moment → Option UInt8
  | .posted _ e ok => if ok ∧ e.kind = k then some e.arg else none
  | .handled _ => none

/-- The door of the newest report, accepted or not. -/
def reportedDoor (past : List Moment) : DoorState :=
  (past.findSome? (Moment.report? .doorChanged)).elim .unknown DoorState.mk

/-- The door of the newest report that was accepted. -/
def acceptedDoor (past : List Moment) : DoorState :=
  (past.findSome? (Moment.accepted? .doorChanged)).elim .unknown DoorState.mk

/-- The lock state of the newest report, accepted or not. -/
def reportedLock (past : List Moment) : LockState :=
  (past.findSome? (Moment.report? .lockChanged)).elim .locked LockState.mk

/-- The lock state reported when the device last had reason to publish it. -/
def publishedLock : List Moment → LockState
  | [] => .locked
  | .handled e :: past => if e.publishes then reportedLock past else publishedLock past
  | .posted _ _ _ :: past => publishedLock past

/-- No report of the device was refused, and nobody else reports a door. -/
def Lossless (past : List Moment) : Prop :=
  ∀ own e ok, .posted own e ok ∈ past →
    (e.kind = .doorChanged → own = true ∧ ok = true) ∧
    (e.kind = .lockChanged → own = true → ok = true)

/-- The door once the reports in a queue are handled. -/
def doorAfter (queue : List Event) (d : DoorState) : DoorState :=
  queue.foldl (fun d e => e.doorAfter d) d

section

variable (own ok : Bool) (e : Event) (past : List Moment)

@[simp] lemma reportedDoor_posted : reportedDoor (.posted own e ok :: past) =
    if own ∧ e.kind = .doorChanged then ⟨e.arg⟩ else reportedDoor past := by
  by_cases h : own ∧ e.kind = .doorChanged <;> simp [reportedDoor, Moment.report?, h]

@[simp] lemma acceptedDoor_posted : acceptedDoor (.posted own e ok :: past) =
    if ok ∧ e.kind = .doorChanged then ⟨e.arg⟩ else acceptedDoor past := by
  by_cases h : ok ∧ e.kind = .doorChanged <;> simp [acceptedDoor, Moment.accepted?, h]

@[simp] lemma reportedLock_posted : reportedLock (.posted own e ok :: past) =
    if own ∧ e.kind = .lockChanged then ⟨e.arg⟩ else reportedLock past := by
  by_cases h : own ∧ e.kind = .lockChanged <;> simp [reportedLock, Moment.report?, h]

@[simp] lemma acceptedDoor_handled : acceptedDoor (.handled e :: past) = acceptedDoor past := rfl

@[simp] lemma doorAfter_append (queue : List Event) (d : DoorState) :
    doorAfter (queue ++ [e]) d =
      if e.kind = .doorChanged then ⟨e.arg⟩ else doorAfter queue d := by
  simp [doorAfter, Event.doorAfter]

end

lemma doorAfter_of_none {queue : List Event} (h : ∀ e ∈ queue, e.kind ≠ .doorChanged)
    (d : DoorState) : doorAfter queue d = d := by
  induction queue with
  | nil => rfl
  | cons e queue ih =>
    rw [List.forall_mem_cons] at h
    rw [doorAfter, List.foldl_cons, Event.doorAfter, if_neg h.1]
    exact ih h.2

lemma Lossless.tail {m : Moment} {past : List Moment} (h : Lossless (m :: past)) : Lossless past :=
  fun own e ok hm => h own e ok (List.mem_cons_of_mem m hm)

lemma Lossless.door {past : List Moment} (h : Lossless past) :
    acceptedDoor past = reportedDoor past := by
  induction past with
  | nil => rfl
  | cons m past ih =>
    cases m with
    | handled e => exact ih h.tail
    | posted own e ok =>
      have hm := (h own e ok List.mem_cons_self).1
      by_cases hk : e.kind = .doorChanged
      · obtain ⟨rfl, rfl⟩ := hm hk
        simp [hk]
      · simp [hk, ih h.tail]

lemma Event.command?_eq_some {e : Event} {l : LockState} (h : e.command? = some l) :
    (∀ d, e.doorAfter d = d) ∧ e.publishes = false ∧ l.code ≤ 1 := by
  simp only [command?, Option.ite_none_right_eq_some, Option.some.injEq] at h
  obtain ⟨⟨hk, harg⟩, rfl⟩ := h
  refine ⟨fun d => ?_, ?_, harg⟩
  · rcases hk with hk | hk <;> simp [doorAfter, hk]
  · rcases hk with hk | hk <;> simp [publishes, hk]

/-! ### The device and its queue -/

/-- A strike, the door as the device last heard of it and the state it publishes are those of what
was reported, accepted and handled. -/
structure Tracks (s : Strike) (door : DoorState) (r : LockState × DoorState) (q : Traffic) :
    Prop where
  believed : s.door = reportedDoor q.past
  told : s.lock = reportedLock q.past
  doorCode : s.door.code ≤ 2
  lockCode : s.lock.code ≤ 1
  queued : doorAfter q.queue door = acceptedDoor q.past
  published : r = (publishedLock q.past, door)
  pending : Lossless q.past → (∀ e ∈ q.queue, e.kind ≠ .lockChanged) →
    publishedLock q.past = reportedLock q.past

namespace Tracks

variable {s s' : Strike} {door : DoorState} {r : LockState × DoorState} {q : Traffic}

/-- A post is tracked by the strike that it reports. -/
lemma post (h : Tracks s door r q) (own : Bool) (e : Event)
    (hdoor : s'.door = if own ∧ e.kind = .doorChanged then ⟨e.arg⟩ else s.door)
    (hlock : s'.lock = if own ∧ e.kind = .lockChanged then ⟨e.arg⟩ else s.lock)
    (hdc : s'.door.code ≤ 2) (hlc : s'.lock.code ≤ 1) : Tracks s' door r (q.post own e) := by
  rw [h.believed] at hdoor
  rw [h.told] at hlock
  unfold Traffic.post
  split
  · refine ⟨by simpa using hdoor, by simpa using hlock, hdc, hlc, ?_, h.published, ?_⟩
    · simp [h.queued]
    · intro hl hq
      simp only [List.forall_mem_append, List.forall_mem_singleton] at hq
      rw [publishedLock, reportedLock_posted, if_neg fun he => hq.2 he.2]
      exact h.pending hl.tail hq.1
  · refine ⟨by simpa using hdoor, by simpa using hlock, hdc, hlc, ?_, h.published, ?_⟩
    · simp [h.queued]
    · intro hl hq
      have he : ¬(own = true ∧ e.kind = .lockChanged) := fun he =>
        Bool.false_ne_true ((hl own e false List.mem_cons_self).2 he.2 he.1)
      rw [publishedLock, reportedLock_posted, if_neg he]
      exact h.pending hl.tail hq

lemma post_other (h : Tracks s door r q) (own : Bool) (e : Event)
    (he : own = true → e.kind ≠ .doorChanged ∧ e.kind ≠ .lockChanged) :
    Tracks s door r (q.post own e) :=
  h.post own e (by rw [if_neg fun hd => (he hd.1).1 hd.2]) (by rw [if_neg fun hl => (he hl.1).2 hl.2])
    h.doorCode h.lockCode

/-- Handling an event tells the device of the door that it reports, and publishes if it has to. -/
lemma handled (h : Tracks s door r q) {e : Event} {queue : List Event} (hq : q.queue = e :: queue) :
    Tracks s (e.doorAfter door) (if e.publishes then (s.lock, e.doorAfter door) else r)
      { q with queue := queue, past := .handled e :: q.past } := by
  refine ⟨h.believed, h.told, h.doorCode, h.lockCode, ?_, ?_, ?_⟩
  · rw [acceptedDoor_handled, ← h.queued, hq]
    rfl
  · rw [publishedLock]
    split
    · rw [h.told]
    · rename_i hp
      have hk : e.kind ≠ .doorChanged := fun hk => hp (by simp [Event.publishes, hk])
      rw [Event.doorAfter, if_neg hk, h.published]
  · intro hl hqueue
    rw [publishedLock]
    split
    · rfl
    · rename_i hp
      refine h.pending hl.tail ?_
      rw [hq, List.forall_mem_cons]
      exact ⟨fun hk => hp (by simp [Event.publishes, hk]), hqueue⟩

lemma of_eq (h : Tracks s door r q) (hd : s'.door = s.door) (hl : s'.lock = s.lock) :
    Tracks s' door r q where
  believed := by rw [hd, h.believed]
  told := by rw [hl, h.told]
  doorCode := by rw [hd]; exact h.doorCode
  lockCode := by rw [hl]; exact h.lockCode
  queued := h.queued
  published := h.published
  pending := h.pending

lemma post_others (h : Tracks s door r q) (e : Event) : Tracks s door r (q.post false e) :=
  h.post_other false e (by simp)

lemma sample (h : Tracks s door r q) (now : Clock) :
    (s.sample now).Ensures Traffic.surroundings (fun s' q' => Tracks s' door r q') q := by
  refine (Traffic.ensures_keep (s.contact.poll_confined now) (fun _ e h => h.post_others e)
    (fun _ _ hp => hp.elim) h).bind ?_
  rintro ⟨report, contact⟩ q ⟨⟨hstable, hreport⟩, h⟩
  cases report with
  | none => exact h.of_eq hstable rfl
  | some d =>
    have hd : d.code ≤ 2 := by
      rcases hreport d rfl with rfl | rfl <;> decide
    refine (Traffic.postOrWarn_ensures (L := Tracks { s with contact := contact } door r) _
      (fun q h => ?_) (fun _ e h => h.post_others e) (fun _ e h => h.post_others e) h).bind
      fun _ _ h => h
    refine h.post true _ ?_ ?_ ?_ h.lockCode
    · simpa [Strike.door] using hstable
    · simp
    · rw [Strike.door, hstable]
      exact hd

lemma set (h : Tracks s door r q) {l : LockState} (hl : l.code ≤ 1) (now : Clock) :
    (s.set l now).Ensures Traffic.surroundings (fun s' q' => Tracks s' door r q') q := by
  rintro _ _ ⟨es, rfl⟩
  have h := Traffic.others_keep (K := Tracks s door r) (fun _ e h => h.post_others e) es h
  refine (Traffic.postOrWarn_ensures (L := Tracks { s with lock := l } door r) _
    (fun q h => ?_) (fun _ e h => h.post_others e) (fun _ e h => h.post_others e) h).bind
    fun _ _ h => h
  exact h.post true _ (by simp [Strike.door]) (by simp) h.doorCode hl

end Tracks

namespace Device

/-- Until a restart is due, a device tracks its reports and its snapshot shows the door. -/
def Keeps (d : Device) (q : Traffic) : Prop :=
  d.rebootPending = false →
    Tracks d.strike d.door d.session.report q ∧ d.snapshot.door.code = d.door.code &&& 3

variable {d : Device} {q : Traffic}

/-- The other parts, up to a new snapshot, keep to what is tracked. -/
lemma keeps_of_confined {α : Type} {f : α → Device} {p : Program Hardware α}
    {a : Strike × DoorState × LockState × DoorState}
    (hp : p.Confined Asks fun r => (f r).account = a ∧
      ((f r).rebootPending = false → (f r).snapshot = .pack (f r).systemState))
    (h : Tracks a.1 a.2.1 a.2.2 q) :
    p.Ensures Traffic.surroundings (fun r q' => (f r).Keeps q') q := by
  refine (Traffic.ensures_keep hp (fun _ e h => h.post_others e)
    (fun _ e he h => h.post_other true e fun _ => he) h).mono ?_
  rintro r q ⟨⟨rfl, hs⟩, h⟩ hr
  refine ⟨h, ?_⟩
  rw [hs hr]
  exact Snapshot.pack_door _ h.lockCode

lemma Keeps.tick (h : d.Keeps q) (now : Clock) :
    (d.tick now).Ensures Traffic.surroundings Keeps q := by
  cases hr : d.rebootPending with
  | true =>
    rw [tick_pending now hr]
    exact h
  | false =>
    obtain ⟨ht, hs⟩ := h hr
    rw [tick_eq now hr]
    refine (ht.sample now).bind fun strike q h => ?_
    refine (Traffic.ensures_keep (afterSample_confined now strike) (fun _ e h => h.post_others e)
      (fun _ e he h => h.post_other true e fun _ => he) h).mono ?_
    rintro d' q ⟨⟨ha, hs'⟩, h⟩ -
    simp only [account, Prod.mk.injEq] at ha
    obtain ⟨rfl, hd, hrep⟩ := ha
    rw [hd, hrep, hs']
    exact ⟨h, hs⟩

lemma Keeps.handle (h : d.Keeps q) {e : Event} {queue : List Event} (hq : q.queue = e :: queue) :
    (d.handle e).Ensures Traffic.surroundings (fun r q' => r.2.Keeps q')
      { q with queue := queue, past := .handled e :: q.past } := by
  cases hr : d.rebootPending with
  | true =>
    rw [handle_pending hr]
    intro hr'
    exact absurd hr' (by simp [hr])
  | false =>
    have h := (h hr).1.handled hq
    cases he : e.command? with
    | none =>
      rw [handle_eq hr]
      exact keeps_of_confined ((react_confined he).bind fun d' h' => conclude_confined h') h
    | some l =>
      obtain ⟨hdoor, hpub, hl⟩ := Event.command?_eq_some he
      rw [hdoor, hpub] at h
      rw [handle_command hr he]
      exact (h.set hl d.now).bind fun strike q h => keeps_of_confined (conclude_confined rfl) h

/-- The calls that report neither door nor lock. -/
def Quiet : Hardware.Call → Prop
  | .post e => e.kind ≠ .doorChanged ∧ e.kind ≠ .lockChanged
  | _ => True

lemma quiet_of_asks (c : Hardware.Call) (h : Asks c) : Quiet c := by
  cases c <;> first | exact h | trivial

lemma strikeStart_confined (s : Strike) (activeHigh : Bool) (now : Clock) :
    (s.start activeHigh now).Confined Quiet fun s' => s'.door = .unknown ∧ s'.lock = .locked :=
  ⟨trivial, fun _ => ⟨trivial, fun _ => ⟨trivial, fun _ => ⟨trivial, fun _ => ⟨rfl, rfl⟩⟩⟩⟩⟩

lemma start_confined (t : Timing) (now : Clock) : ((new t).start now).Confined Quiet fun d =>
    d.strike.door = .unknown ∧ d.strike.lock = .locked ∧ d.door = .unknown ∧
      d.session.report = (.locked, .unknown) ∧ d.snapshot = .pack d.systemState := by
  have hlight := ((new t).indicator.start_confined now).mono asks_of_indicator fun _ => id
  refine hlight.within quiet_of_asks fun indicator _ => ⟨trivial, fun _ => ⟨trivial, fun _ => ?_⟩⟩
  have hload := Store.load_confined.mono asks_of_store fun _ => id
  refine hload.within quiet_of_asks fun stored _ => ?_
  refine (strikeStart_confined _ _ now).bind fun strike hs => ?_
  refine ((startRole_confined now rfl).bind fun d ha => refresh_confined now ha).mono
    quiet_of_asks fun d ha => ?_
  obtain ⟨ha, hsnap⟩ := ha
  simp only [account, Prod.mk.injEq] at ha
  obtain ⟨rfl, hd, hrep⟩ := ha
  exact ⟨hs.1, hs.2, hd, hrep, hsnap⟩

lemma start_keeps (t : Timing) (now : Clock) (capacity : Nat) :
    ((new t).start now).Ensures Traffic.surroundings Keeps { capacity } := by
  have h : Tracks (new t).strike .unknown (.locked, .unknown) { capacity } :=
    ⟨rfl, rfl, (by decide : DoorState.unknown.code ≤ 2), (by decide : LockState.locked.code ≤ 1), rfl,
      rfl, fun _ _ => rfl⟩
  refine (Traffic.ensures_keep (start_confined t now) (fun _ e h => h.post_others e)
    (fun _ e he h => h.post_other true e fun _ => he) h).mono ?_
  rintro d q ⟨⟨hdoor, hlock, hd, hrep, hsnap⟩, h⟩ -
  rw [hd, hrep, hsnap]
  refine ⟨h.of_eq hdoor hlock, ?_⟩
  rw [Snapshot.pack_door _ (by simp only [systemState, hlock]; decide)]
  simp only [systemState, hd]

/-- **Reports and their loss**: after any turns, while no restart is due and no door report is in
the queue, the snapshot and the session have the door that the strike believes exactly when the
newest accepted report is of the door in the newest report made. While no lock report is in the
queue, the session has the lock state of the strike exactly when the one reported at the last
publishing is the newest one reported. Without a refused report, and when nobody else reports a
door, both agree. -/
theorem report_arrives_iff (t : Timing) (now : Clock) (capacity : Nat) (turns : List Turn) :
    ((new t).start now).Ensures Traffic.surroundings (Always (fun d q =>
      d.rebootPending = false →
        ((∀ e ∈ q.queue, e.kind ≠ .doorChanged) →
          (d.snapshot.door = d.strike.door ∧ d.session.door = d.strike.door ↔
            acceptedDoor q.past = reportedDoor q.past)) ∧
        ((∀ e ∈ q.queue, e.kind ≠ .lockChanged) →
          (d.session.lock = d.strike.lock ↔ publishedLock q.past = reportedLock q.past)) ∧
        (Lossless q.past →
          ((∀ e ∈ q.queue, e.kind ≠ .doorChanged) →
            d.snapshot.door = d.strike.door ∧ d.session.door = d.strike.door) ∧
          ((∀ e ∈ q.queue, e.kind ≠ .lockChanged) → d.session.lock = d.strike.lock))) turns)
      { capacity } := by
  refine (start_keeps t now capacity).mono fun d q h => ?_
  refine (always_of_keep (fun d q now h => h.tick now) (fun d q e queue hq h => h.handle hq)
    (fun d q e h hr => ⟨(h hr).1.post_others e, (h hr).2⟩) turns h).mono fun d q h hr => ?_
  obtain ⟨h, hsnap⟩ := h hr
  have hsession : d.session.door = d.door := congrArg Prod.snd h.published
  have hlock : d.session.lock = publishedLock q.past := congrArg Prod.fst h.published
  have hdoor (hq : ∀ e ∈ q.queue, e.kind ≠ .doorChanged) :
      (d.snapshot.door = d.strike.door ∧ d.session.door = d.strike.door ↔
        acceptedDoor q.past = reportedDoor q.past) := by
    rw [← h.queued, doorAfter_of_none hq, ← h.believed, hsession]
    refine ⟨And.right, fun hd => ⟨?_, hd⟩⟩
    rw [hd, Snapshot.and_three h.doorCode] at hsnap
    exact congrArg DoorState.mk hsnap
  refine ⟨hdoor, fun _ => by rw [hlock, h.told], fun hl => ⟨fun hq => ?_, fun hq => ?_⟩⟩
  · exact (hdoor hq).2 hl.door
  · rw [hlock, h.told, h.pending hl hq]

/-- A report refused by a full queue is lost: the door opens, the queue is emptied, and the session
does not have the open door. -/
theorem refused_report_lost :
    ¬((new {}).start 0).Ensures Traffic.surroundings (Always (fun d q =>
      d.rebootPending = false → (∀ e ∈ q.queue, e.kind ≠ .doorChanged) →
        d.session.door = d.strike.door) [.tick 100, .pump]) { capacity := 1 } := by
  intro h
  have h := Always.live Traffic.calm_follows _ (Ensures.run Traffic.calm_follows h)
  revert h
  decide +kernel

end Device

end DoorControl
