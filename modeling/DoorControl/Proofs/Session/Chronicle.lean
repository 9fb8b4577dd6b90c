import DoorControl.Proofs.Session.Publication

/-!
The connection attempts of a broker session, read off a chronicle of its life: what the device did
to it, in which state that found it, and every call with the answer it got. An attempt begins where
a connection is asked for.
-/

namespace DoorControl

open Program

/-! ### What an attempt may say -/

/-- What a session is set up to say to the transport. -/
structure Wording where
  connection : ConnectRequest
  topics : Topics
  discovery : Bytes

namespace Wording

def connect (w : Wording) (g : UInt8) : Request := .connect { w.connection with generation := g }

/-- The device is announced, and its commands are asked for. -/
def announcement (w : Wording) (g : UInt8) : List Request := [
  .publish g w.topics.discovery w.discovery true,
  .publish g w.topics.availability Session.online true,
  .subscribe g w.topics.command]

def report (w : Wording) (g : UInt8) (x : LockState × DoorState) : Request :=
  .publish g w.topics.state (Document.state x.1 x.2) true

def offline (w : Wording) (g : UInt8) : Request :=
  .publish g w.topics.availability Session.offline true

/-- All that comes before the leave, with the reports given. -/
def opening (w : Wording) (g : UInt8) (reports : List (LockState × DoorState)) : List Request :=
  w.connect g :: w.announcement g ++ reports.map (w.report g)

/-- All that an attempt may say, in order. -/
def script (w : Wording) (g : UInt8) (reports : List (LockState × DoorState)) : List Request :=
  w.opening g reports ++ [w.offline g, .disconnect g]

/-- No topic is mistaken for another one. -/
structure Distinct (w : Wording) : Prop where
  state : w.topics.Distinct
  availability : w.topics.discovery ≠ w.topics.availability

variable {w : Wording} {g : UInt8} {reports : List (LockState × DoorState)} {r : Request}

lemma mem_script : r ∈ w.script g reports ↔
    r = w.connect g ∨ r ∈ w.announcement g ∨ (∃ x ∈ reports, w.report g x = r) ∨
      r = w.offline g ∨ r = .disconnect g := by
  simp [script, opening]

lemma generation_of_mem_script (h : r ∈ w.script g reports) : r.generation = g := by
  rcases mem_script.1 h with rfl | h | ⟨x, -, rfl⟩ | rfl | rfl
  · rfl
  · simp only [announcement, List.mem_cons, List.not_mem_nil, or_false] at h
    rcases h with rfl | rfl | rfl <;> rfl
  · rfl
  · rfl
  · rfl

lemma report_notMem_announcement (hw : w.Distinct) (x : LockState × DoorState) :
    w.report g x ∉ w.announcement g := by
  simp [report, announcement, hw.state.discovery.symm, hw.state.availability.symm]

lemma offline_ne_report (hw : w.Distinct) (x : LockState × DoorState) :
    w.offline g ≠ w.report g x := by
  simp [offline, report, hw.state.availability]

lemma count_script (hw : w.Distinct) (g : UInt8) (reports : List (LockState × DoorState)) :
    (w.script g reports).count (w.offline g) = 1 ∧
      (w.script g reports).count (.disconnect g) = 1 := by
  have hpayload : Session.online ≠ Session.offline := by decide
  constructor
  · have hreports : w.offline g ∉ reports.map (w.report g) := by
      simp only [List.mem_map, not_exists, not_and]
      exact fun x _ he => offline_ne_report hw x he.symm
    simp only [script, opening, List.count_append, List.count_eq_zero_of_not_mem hreports]
    simp [connect, announcement, offline, hw.availability, hpayload]
  · have hreports : .disconnect g ∉ reports.map (w.report g) := by
      simp [report]
    simp only [script, opening, List.count_append, List.count_eq_zero_of_not_mem hreports]
    simp [connect, announcement, offline]

end Wording

/-! ### The chronicle -/

/-- Something in the life of a session. -/
inductive Mark
  | begun (op : Session.Operation) (state : SessionState)
  | made (x : Exchange Hardware)
  | ended (op : Session.Operation)

/-- The request that is made, with whether the transport takes it. -/
def Mark.request? : Mark → Option (Request × Bool)
  | .made ⟨.request r, taken⟩ => some (r, taken)
  | _ => none

/-- A connection is asked for. -/
def Mark.connects (m : Mark) : Bool :=
  match m.request? with
  | some (.connect _, _) => true
  | _ => false

/-- The request that the transport takes. -/
def Mark.accepted? (m : Mark) : Option Request :=
  match m.request? with
  | some (r, true) => some r
  | _ => none

/-- What happened to a session, the newest first. -/
abbrev Chronicle := List Mark

namespace Chronicle

/-- Surroundings that answer anything and keep a chronicle. -/
def surroundings : Surroundings Hardware Chronicle where
  may c h r h' := h' = .made ⟨c, r⟩ :: h

/-- The number of attempts so far. -/
def number (h : Chronicle) : Nat := h.countP Mark.connects

/-- That number around 256. -/
def generation (h : Chronicle) : UInt8 := .ofNat (number h)

/-- What happened since the present attempt began. -/
def attempt : Chronicle → Chronicle
  | [] => []
  | m :: past => if m.connects then [m] else m :: attempt past

/-- The requests of the present attempt that the transport took, the oldest first. -/
def accepted (h : Chronicle) : List Request := ((attempt h).filterMap Mark.accepted?).reverse

/-- In the present attempt, a result of its own connection was handed to the session in a state. -/
def Heard (h : Chronicle) (k : EventKind) (state : SessionState) : Prop :=
  ∃ e now, .begun (.handle e now) state ∈ attempt h ∧ e.kind = k ∧ e.arg = generation h

/-- A request has its place in an attempt that has come this far. -/
structure Due (w : Wording) (g : UInt8) (past : Chronicle) (r : Request) : Prop where
  scripted : ∃ reports, r ∈ w.script g reports
  announcement : r ∈ w.announcement g →
    w.connect g ∈ accepted past ∧ Heard past .transportUp .connecting
  report : ∀ x, r = w.report g x →
    (∀ q ∈ w.opening g [], q ∈ accepted past) ∧ Heard past .subscribed .connected
  offline : r = w.offline g → w.connect g ∈ accepted past

/-- At every moment of a chronicle, the attempts were in order. -/
structure Orderly (w : Wording) (h : Chronicle) : Prop where
  requests : ∀ r taken past, .made ⟨.request r, taken⟩ :: past <:+ h →
    Due w (generation (.made ⟨.request r, taken⟩ :: past)) past r
  script : ∀ past, past <:+ h →
    ∃ reports, (accepted past).Sublist (w.script (generation past) reports)
  leave : ∀ past, past <:+ h →
    (accepted past).count (w.offline (generation past)) ≤ 1 ∧
      (accepted past).count (.disconnect (generation past)) ≤ 1
  silence : ∀ x past, .made x :: past <:+ h → .ended .shutdown ∉ past

/-! ### One more mark -/

section

variable {m : Mark} {h : Chronicle}

lemma number_cons_of_none (hm : m.request? = none) : number (m :: h) = number h := by
  simp [number, Mark.connects, hm]

lemma generation_cons_of_none (hm : m.request? = none) : generation (m :: h) = generation h := by
  rw [generation, number_cons_of_none hm, generation]

lemma attempt_cons_of_none (hm : m.request? = none) : attempt (m :: h) = m :: attempt h := by
  simp [attempt, Mark.connects, hm]

lemma accepted_cons_of_none (hm : m.request? = none) : accepted (m :: h) = accepted h := by
  rw [accepted, attempt_cons_of_none hm, List.filterMap_cons_none (by simp [Mark.accepted?, hm]),
    accepted]

lemma Heard.cons_of_none {k : EventKind} {state : SessionState} (hh : Heard h k state)
    (hm : m.request? = none) : Heard (m :: h) k state := by
  obtain ⟨e, now, hmem, hk, harg⟩ := hh
  refine ⟨e, now, ?_, hk, ?_⟩
  · rw [attempt_cons_of_none hm]
    exact List.mem_cons_of_mem _ hmem
  · rw [generation_cons_of_none hm, harg]

variable {r : Request} (taken : Bool)

lemma connects_request (hr : ∀ c, r ≠ .connect c) :
    Mark.connects (.made ⟨.request r, taken⟩) = false := by
  cases r with
  | connect c => exact absurd rfl (hr c)
  | _ => rfl

lemma generation_cons_request (hr : ∀ c, r ≠ .connect c) :
    generation (.made ⟨.request r, taken⟩ :: h) = generation h := by
  simp [generation, number, connects_request taken hr]

lemma accepted_cons_request (hr : ∀ c, r ≠ .connect c) :
    accepted (.made ⟨.request r, taken⟩ :: h) = accepted h ++ if taken then [r] else [] := by
  have hattempt : attempt (.made ⟨.request r, taken⟩ :: h) =
      .made ⟨.request r, taken⟩ :: attempt h := by
    simp [attempt, connects_request taken hr]
  rw [accepted, hattempt, accepted]
  cases taken with
  | true =>
    have htaken : Mark.accepted? (.made ⟨.request r, true⟩) = some r := rfl
    rw [List.filterMap_cons_some htaken, List.reverse_cons, if_pos rfl]
  | false =>
    rw [List.filterMap_cons_none rfl, if_neg Bool.false_ne_true, List.append_nil]

lemma Heard.cons_request {k : EventKind} {state : SessionState} (hh : Heard h k state)
    (hr : ∀ c, r ≠ .connect c) : Heard (.made ⟨.request r, taken⟩ :: h) k state := by
  obtain ⟨e, now, hmem, hk, harg⟩ := hh
  refine ⟨e, now, ?_, hk, ?_⟩
  · rw [attempt, connects_request taken hr]
    exact List.mem_cons_of_mem _ hmem
  · rw [generation_cons_request taken hr, harg]

lemma generation_cons_connect (c : ConnectRequest) :
    generation (.made ⟨.request (.connect c), taken⟩ :: h) = generation h + 1 := by
  rw [generation, number, List.countP_cons_of_pos rfl, UInt8.ofNat_add]
  rfl

lemma accepted_cons_connect (c : ConnectRequest) :
    accepted (.made ⟨.request (.connect c), taken⟩ :: h) = if taken then [.connect c] else [] := by
  cases taken <;> rfl

end

/-! ### Chronicles that stay in order -/

namespace Orderly

variable {w : Wording} {h : Chronicle}

lemma nil (w : Wording) : Orderly w [] where
  requests r taken past hp := by simp at hp
  script past hp := by
    obtain rfl := List.suffix_nil.1 hp
    exact ⟨[], List.nil_sublist _⟩
  leave past hp := by
    obtain rfl := List.suffix_nil.1 hp
    simp [accepted, attempt]
  silence x past hp := by simp at hp

lemma cons_of_none (ho : Orderly w h) {m : Mark} (hm : m.request? = none)
    (hs : .ended .shutdown ∈ h → ∀ x, m ≠ .made x) : Orderly w (m :: h) where
  requests r taken past hp := by
    rcases List.suffix_cons_iff.1 hp with he | hp
    · cases he
      cases hm
    · exact ho.requests r taken past hp
  script past hp := by
    rcases List.suffix_cons_iff.1 hp with rfl | hp
    · rw [accepted_cons_of_none hm, generation_cons_of_none hm]
      exact ho.script h List.suffix_rfl
    · exact ho.script past hp
  leave past hp := by
    rcases List.suffix_cons_iff.1 hp with rfl | hp
    · rw [accepted_cons_of_none hm, generation_cons_of_none hm]
      exact ho.leave h List.suffix_rfl
    · exact ho.leave past hp
  silence x past hp := by
    rcases List.suffix_cons_iff.1 hp with he | hp
    · cases he
      exact fun hmem => hs hmem x rfl
    · exact ho.silence x past hp

/-- A request in its place leaves a chronicle in order. -/
lemma cons_request (ho : Orderly w h) (hw : w.Distinct) (hs : .ended .shutdown ∉ h) {r : Request}
    {taken : Bool} (hdue : Due w (generation (.made ⟨.request r, taken⟩ :: h)) h r)
    (reports : List (LockState × DoorState))
    (hscript : (accepted (.made ⟨.request r, taken⟩ :: h)).Sublist
      (w.script (generation (.made ⟨.request r, taken⟩ :: h)) reports)) :
    Orderly w (.made ⟨.request r, taken⟩ :: h) where
  requests q ok past hp := by
    rcases List.suffix_cons_iff.1 hp with he | hp
    · cases he
      exact hdue
    · exact ho.requests q ok past hp
  script past hp := by
    rcases List.suffix_cons_iff.1 hp with rfl | hp
    · exact ⟨reports, hscript⟩
    · exact ho.script past hp
  leave past hp := by
    rcases List.suffix_cons_iff.1 hp with rfl | hp
    · have hcount := Wording.count_script hw (generation (.made ⟨.request r, taken⟩ :: h)) reports
      exact ⟨hcount.1 ▸ hscript.count_le _, hcount.2 ▸ hscript.count_le _⟩
    · exact ho.leave past hp
  silence x past hp := by
    rcases List.suffix_cons_iff.1 hp with he | hp
    · cases he
      exact hs
    · exact ho.silence x past hp

end Orderly

end Chronicle

/-! ### The life of a session -/

namespace Session

/-- What a session is set up to say. -/
def wording (s : Session) : Wording where
  connection := { s.connection with generation := 0 }
  topics := s.topics
  discovery := s.discovery

/-- Whatever the surroundings answer, `post` holds after the operations and of their chronicle. -/
def Throughout (t : Timing) (post : Session → Chronicle → Prop) :
    List Operation → Session → Chronicle → Prop
  | [], s, h => post s h
  | op :: rest, s, h =>
    (s.perform t op).Ensures Chronicle.surroundings
      (fun s' h' => Throughout t post rest s' (.ended op :: h')) (.begun op s.state :: h)

lemma throughout_of_keep {t : Timing} {keep post : Session → Chronicle → Prop}
    (hkeep : ∀ s h op, keep s h → (s.perform t op).Ensures Chronicle.surroundings
      (fun s' h' => keep s' (.ended op :: h')) (.begun op s.state :: h))
    (hpost : ∀ s h, keep s h → post s h) (ops : List Operation) {s : Session} {h : Chronicle}
    (hs : keep s h) : Throughout t post ops s h := by
  induction ops generalizing s h with
  | nil => exact hpost s h hs
  | cons op rest ih => exact (hkeep s h op hs).mono fun s' h' hs' => ih hs'

end Session

end DoorControl
