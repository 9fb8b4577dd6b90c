import Mathlib.Data.List.Chain
import Mathlib.Data.List.TakeWhile
import DoorControl.Proofs.Clock
import DoorControl.Proofs.Parts

/-!
What the door contact reports, told from all the readings of its pin. The contact itself keeps only
the last level, the time of its first reading on a clock that wraps, and the door as last believed.
-/

namespace DoorControl

open Program

/-- A reading of the pin: when it was taken, in milliseconds that never wrap, the level, and the
report that it gave rise to. -/
structure Reading where
  time : Nat
  high : Bool
  report : Option DoorState := none

/-- The readings so far, the newest first, and the time of the present operation. -/
structure Watch where
  now : Nat
  readings : List Reading := []

namespace Watch

/-- A level is read now. -/
def read (w : Watch) (high : Bool) : Watch :=
  { w with readings := { time := w.now, high } :: w.readings }

/-- Surroundings that answer anything and keep the readings of a pin. -/
def surroundings (pin : UInt8) : Surroundings Hardware Watch where
  may
    | .pinRead p, w, high, w' => w' = if p = pin then w.read high else w
    | _, w, _, w' => w' = w

/-- Some time later. -/
def after (w : Watch) (gap : Nat) : Watch := { w with now := w.now + gap }

/-- The newest reading gave rise to a report, or to none. -/
def report (w : Watch) (r : Option DoorState) : Watch :=
  match w.readings with
  | [] => w
  | x :: older => { w with readings := { x with report := r } :: older }

end Watch

namespace Reading

/-- The newest reading and those before it, back to the last change of level. -/
def run (x : Reading) (older : List Reading) : List Reading :=
  x :: older.takeWhile (·.high = x.high)

/-- The first reading of that run. -/
def first (x : Reading) (older : List Reading) : Reading := (run x older).getLast (by simp [run])

/-- All reports, the newest first. -/
def reports (readings : List Reading) : List DoorState := readings.filterMap (·.report)

lemma head?_reports_cons (x : Reading) (older : List Reading) :
    (reports (x :: older)).head? = x.report.or (reports older).head? := by
  rw [reports, List.filterMap_cons]
  cases x.report <;> rfl

lemma high_of_mem_run {x y : Reading} {older : List Reading} (hy : y ∈ run x older) :
    y.high = x.high := by
  rcases List.mem_cons.1 hy with rfl | hy
  · rfl
  · simpa using List.mem_takeWhile_imp hy

lemma first_same {x y : Reading} (h : y.high = x.high) (older : List Reading) :
    first y (x :: older) = first x older := by
  simp [first, run, h]

lemma first_changed {x y : Reading} (h : y.high ≠ x.high) (older : List Reading) :
    first y (x :: older) = y := by
  simp [first, run, Ne.symm h]

end Reading

namespace Contact

open Reading

/-- Whether a level of the pin means closed. -/
def closes (c : Contact) (high : Bool) : Bool := if c.closedIsLow then !high else high

/-- The door that a level of the pin shows. -/
def shows (c : Contact) (high : Bool) : DoorState := if c.closes high then .closed else .opened

/-- A report of a door is due by the readings. -/
structure Due (c : Contact) (x : Reading) (older : List Reading) (v : DoorState) : Prop where
  /-- Every reading since the last change of level shows the door. -/
  shown : ∀ y ∈ run x older, c.shows y.high = v
  /-- The first of them was taken at least the debounce time ago. -/
  held : (first x older).time + c.debounce.toNat ≤ x.time
  /-- The last report was another one, if there was any. -/
  news : (reports older).head? ≠ some v

/-- The start reported nothing, and each poll exactly what was due. -/
def Exact (c : Contact) : List Reading → Prop
  | [] => True
  | [x] => x.report = none
  | x :: y :: older => (∀ v, x.report = some v ↔ c.Due x (y :: older) v) ∧ c.Exact (y :: older)

/-- Whatever is read, `post` holds after polls with these gaps between them. -/
def Throughout (post : Watch → Prop) : List Nat → Contact → Watch → Prop
  | [], _, w => post w
  | gap :: gaps, c, w => (c.poll (.ofNat (w.now + gap))).Ensures (Watch.surroundings c.pin)
      (fun r w' => Throughout post gaps r.2 (w'.report r.1)) (w.after gap)

lemma Throughout.mono {post post' : Watch → Prop} (hpost : ∀ w, post w → post' w)
    (gaps : List Nat) {c : Contact} {w : Watch} (h : c.Throughout post gaps w) :
    c.Throughout post' gaps w := by
  induction gaps generalizing c w with
  | nil => exact hpost w h
  | cons gap gaps ih => exact Ensures.mono h fun r w' h' => ih h'

variable {c c' : Contact} {x : Reading} {older : List Reading} {v : DoorState}

/-! ### What a poll does -/

/-- What a poll comes to when it reads a level. -/
def polled (c : Contact) (high : Bool) (now : Clock) : Option DoorState × Contact :=
  let c := c.noted (c.closes high) now
  (c.due now, { c with stable := (c.due now).getD c.stable })

lemma poll_eq (c : Contact) (now : Clock) :
    c.poll now = .call (.pinRead c.pin) fun high => .done (c.polled high now) := by
  refine congrArg (Program.call _) (funext fun high => ?_)
  simp only [pure_eq, Program.bind, polled]
  rw [← closes]
  cases (c.noted (c.closes high) now).due now <;> rfl

/-- What a contact is wired and set to. -/
def wiring (c : Contact) : UInt8 × Bool × UInt32 := (c.pin, c.closedIsLow, c.debounce)

lemma noted_wiring (c : Contact) (raw : Bool) (now : Clock) :
    (c.noted raw now).wiring = c.wiring := by
  unfold noted
  split <;> rfl

lemma polled_wiring (c : Contact) (high : Bool) (now : Clock) :
    (c.polled high now).2.wiring = c.wiring :=
  noted_wiring c _ now

lemma closes_inj {a b : Bool} : c.closes a = c.closes b ↔ a = b := by
  unfold closes
  split <;> simp

lemma shows_known (c : Contact) (high : Bool) :
    c.shows high = .opened ∨ c.shows high = .closed := by
  unfold shows
  split <;> simp

lemma shown_iff : (∀ y ∈ run x older, c.shows y.high = v) ↔ c.shows x.high = v := by
  constructor
  · exact fun h => h x List.mem_cons_self
  · intro h y hy
    rw [high_of_mem_run hy, h]

lemma due_iff : c.Due x older v ↔ v = c.shows x.high ∧
    (first x older).time + c.debounce.toNat ≤ x.time ∧
    (reports older).head? ≠ some (c.shows x.high) := by
  constructor
  · intro h
    obtain rfl := shown_iff.1 h.shown
    exact ⟨rfl, h.held, h.news⟩
  · rintro ⟨rfl, hheld, hnews⟩
    exact ⟨shown_iff.2 rfl, hheld, hnews⟩

/-! ### The contact and the readings -/

/-- The contact goes by the readings of its pin. -/
structure Follows (c : Contact) (x : Reading) (older : List Reading) : Prop where
  raw : c.raw = c.closes x.high
  since : c.since = .ofNat (first x older).time
  stable : c.stable = (reports (x :: older)).head?.getD .unknown
  past : (first x older).time ≤ x.time
  /-- What was held for the debounce time was reported: nothing is left over that the clock might
  tell wrong later. -/
  told : (reports (x :: older)).head? = some (c.shows x.high) ∨
    x.time ≤ (first x older).time + c.debounce.toNat

/-- A reading is taken in with the time of the first of its run. -/
lemma Follows.noted (h : c.Follows x older) (y : Reading) :
    (c.noted (c.closes y.high) (.ofNat y.time)).raw = c.closes y.high ∧
      (c.noted (c.closes y.high) (.ofNat y.time)).since = .ofNat (first y (x :: older)).time := by
  unfold Contact.noted
  by_cases hy : y.high = x.high
  · rw [if_pos (by rw [h.raw, hy]), first_same hy, hy]
    exact ⟨h.raw, h.since⟩
  · rw [if_neg (by rwa [h.raw, closes_inj]), first_changed hy]
    exact ⟨rfl, rfl⟩

/-- A door is believed that was reported last. -/
lemma Follows.believed_iff (h : c.Follows x older) (high : Bool) :
    c.stable = c.shows high ↔ (reports (x :: older)).head? = some (c.shows high) := by
  rw [h.stable]
  cases (reports (x :: older)).head? with
  | none =>
    rcases c.shows_known high with hs | hs <;> rw [hs] <;> decide
  | some d => simp

/-- Unless the door is believed already, the clock tells right how long a run has lasted. -/
lemma Follows.held_iff (h : c.Follows x older) {y : Reading} (hy : x.time ≤ y.time)
    (hpace : y.time < x.time + 2 ^ 31) (hd : c.debounce < 0x80000000)
    (hnews : (reports (x :: older)).head? ≠ some (c.shows y.high)) :
    UInt32.ofNat y.time - .ofNat (first y (x :: older)).time < c.debounce ↔
      y.time < (first y (x :: older)).time + c.debounce.toNat := by
  have hmax : c.debounce.toNat < 2 ^ 31 := UInt32.lt_iff_toNat_lt.1 hd
  have hspan : (first y (x :: older)).time ≤ y.time ∧
      y.time < (first y (x :: older)).time + 2 ^ 32 := by
    by_cases hsame : y.high = x.high
    · rw [first_same hsame]
      have hpast := h.past
      have htold := h.told.resolve_left (hsame ▸ hnews)
      omega
    · rw [first_changed hsame]
      omega
  rw [UInt32.lt_iff_toNat_lt, Clock.toNat_sub_ofNat hspan.1 hspan.2]
  omega

/-- A poll reports exactly what is due. -/
lemma Follows.report_iff (h : c.Follows x older) {y : Reading} (hy : x.time ≤ y.time)
    (hpace : y.time < x.time + 2 ^ 31) (hd : c.debounce < 0x80000000) :
    (c.polled y.high (.ofNat y.time)).1 = some v ↔ c.Due y (x :: older) v := by
  obtain ⟨hraw, hsince⟩ := h.noted y
  have hreading : (c.noted (c.closes y.high) (.ofNat y.time)).reading = c.shows y.high := by
    rw [reading, hraw]
    rfl
  have hdebounce : (c.noted (c.closes y.high) (.ofNat y.time)).debounce = c.debounce :=
    congrArg (·.2.2) (noted_wiring c _ _)
  rw [due_iff, polled]
  dsimp only
  rw [due, hreading, hsince, hdebounce, noted_stable]
  by_cases hnews : (reports (x :: older)).head? = some (c.shows y.high)
  · simp [(h.believed_iff y.high).2 hnews, hnews]
  · rw [if_neg (mt (h.believed_iff y.high).1 hnews)]
    by_cases hheld : y.time < (first y (x :: older)).time + c.debounce.toNat
    · rw [if_pos ((h.held_iff hy hpace hd hnews).2 hheld)]
      simp [Nat.not_le.2 hheld]
    · rw [if_neg (mt (h.held_iff hy hpace hd hnews).1 hheld)]
      simp [Nat.not_lt.1 hheld, hnews, eq_comm]

lemma due_congr (hc : c'.wiring = c.wiring) : c'.Due x older v ↔ c.Due x older v := by
  simp only [wiring, Prod.mk.injEq] at hc
  rw [due_iff, due_iff, shows, closes, hc.2.1, hc.2.2, ← closes, ← shows]

lemma Follows.polled (h : c.Follows x older) {y : Reading} (hy : x.time ≤ y.time)
    (hpace : y.time < x.time + 2 ^ 31) (hd : c.debounce < 0x80000000)
    (hr : y.report = (c.polled y.high (.ofNat y.time)).1) :
    (c.polled y.high (.ofNat y.time)).2.Follows y (x :: older) := by
  have hwiring := c.polled_wiring y.high (.ofNat y.time)
  simp only [wiring, Prod.mk.injEq] at hwiring
  have hshows : (c.polled y.high (.ofNat y.time)).2.shows y.high = c.shows y.high := by
    rw [shows, closes, hwiring.2.1, ← closes, ← shows]
  obtain ⟨hraw, hsince⟩ := h.noted y
  refine ⟨?_, hsince, ?_, ?_, ?_⟩
  · rw [closes, hwiring.2.1]
    exact hraw
  · rw [head?_reports_cons, hr, Option.getD_or, ← h.stable, ← noted_stable c (c.closes y.high)]
    rfl
  · by_cases hsame : y.high = x.high
    · rw [first_same hsame]
      exact h.past.trans hy
    · rw [first_changed hsame]
  · rw [hshows, hwiring.2.2, head?_reports_cons]
    by_cases hheld : (first y (x :: older)).time + c.debounce.toNat ≤ y.time
    · refine .inl ?_
      by_cases hnews : (reports (x :: older)).head? = some (c.shows y.high)
      · -- what was reported last is not reported again
        have hnone : y.report = none := by
          rw [hr]
          refine Option.eq_none_iff_forall_ne_some.2 fun v hv => ?_
          obtain ⟨rfl, -, hne⟩ := due_iff.1 ((h.report_iff hy hpace hd).1 hv)
          exact hne hnews
        rw [hnone, hnews]
        rfl
      · rw [hr, (h.report_iff hy hpace hd).2 (due_iff.2 ⟨rfl, hheld, hnews⟩)]
        rfl
    · exact .inr (Nat.le_of_not_le hheld)

/-- Between polls: the contact follows its readings, whose reports are exact, and the last one was
taken now, after those of earlier times. -/
structure Kept (c₀ : Contact) (times : List Nat) (now : Nat) (c : Contact) (w : Watch) : Prop where
  clock : w.now = now
  wiring : c.wiring = c₀.wiring
  follows : ∃ x older, w.readings = x :: older ∧ x.time = now ∧ c.Follows x older
  reported : c₀.Exact w.readings
  times : (w.readings.map (·.time)).reverse = times ++ [now]

variable {c₀ : Contact} {times : List Nat} {now gap : Nat} {w : Watch}

lemma start_kept (c : Contact) (began : Nat) :
    (c.start (.ofNat began)).Ensures (Watch.surroundings c.pin) (Kept c [] began)
      { now := began } := by
  rintro _ _ rfl high _ hread
  obtain rfl := hread.trans (if_pos rfl)
  refine ⟨rfl, rfl, ⟨_, [], rfl, rfl, rfl, rfl, rfl, Nat.le_refl _, .inr ?_⟩, rfl, rfl⟩
  exact Nat.le_add_right _ _

lemma Kept.polled (h : Kept c₀ times now c w) (hd : c₀.debounce < 0x80000000)
    (hgap : gap < 2 ^ 31) (high : Bool) :
    Kept c₀ (times ++ [now]) (now + gap) (c.polled high (.ofNat (now + gap))).2
      (((w.after gap).read high).report (c.polled high (.ofNat (now + gap))).1) := by
  obtain ⟨x, older, hreadings, hx, hfollows⟩ := h.follows
  have hdebounce : c.debounce < 0x80000000 := by
    have hwiring : c.debounce = c₀.debounce := congrArg (·.2.2) h.wiring
    rwa [hwiring]
  have hle : x.time ≤ now + gap := by omega
  have hpace : now + gap < x.time + 2 ^ 31 := by omega
  have hwatch (r : Option DoorState) : ((w.after gap).read high).report r =
      { now := now + gap, readings := ⟨now + gap, high, r⟩ :: x :: older } := by
    simp only [Watch.report, Watch.read, Watch.after, hreadings, h.clock]
  have hreported := h.reported
  have htimes := h.times
  rw [hreadings] at hreported htimes
  rw [hwatch]
  refine ⟨rfl, (c.polled_wiring _ _).trans h.wiring, ⟨_, _, rfl, rfl, ?_⟩, ⟨?_, hreported⟩, ?_⟩
  · exact hfollows.polled (y := ⟨now + gap, high, _⟩) hle hpace hdebounce rfl
  · intro v
    rw [← due_congr h.wiring]
    exact hfollows.report_iff (y := ⟨now + gap, high, _⟩) hle hpace hdebounce
  · rw [List.map_cons, List.reverse_cons, htimes]

lemma Kept.poll (h : Kept c₀ times now c w) (hd : c₀.debounce < 0x80000000)
    (hgap : gap < 2 ^ 31) :
    (c.poll (.ofNat (w.now + gap))).Ensures (Watch.surroundings c.pin)
      (fun r w' => Kept c₀ (times ++ [now]) (now + gap) r.2 (w'.report r.1)) (w.after gap) := by
  rw [poll_eq, h.clock]
  rintro high _ hread
  obtain rfl := hread.trans (if_pos rfl)
  exact h.polled hd hgap high

lemma Kept.throughout (hd : c₀.debounce < 0x80000000) (gaps : List Nat)
    (hpace : ∀ gap ∈ gaps, gap < 2 ^ 31) (h : Kept c₀ times now c w) :
    c.Throughout (fun w' => (w'.readings.map (·.time)).reverse =
      times ++ gaps.scanl (· + ·) now ∧ c₀.Exact w'.readings) gaps w := by
  induction gaps generalizing c times now w with
  | nil => exact ⟨h.times, h.reported⟩
  | cons gap gaps ih =>
    obtain ⟨hgap, hpace⟩ := List.forall_mem_cons.1 hpace
    refine (h.poll hd hgap).mono fun r w' h' => ?_
    simpa [List.scanl_cons] using ih hpace h'

/-! ### The reports -/

lemma Exact.alternate {readings : List Reading} (h : c.Exact readings) :
    (reports readings).IsChain (· ≠ ·) ∧ ∀ v ∈ reports readings, v = .opened ∨ v = .closed := by
  induction readings with
  | nil => exact ⟨.nil, nofun⟩
  | cons x older ih =>
    cases older with
    | nil =>
      have hnone : reports [x] = [] := List.filterMap_cons_none h
      rw [hnone]
      exact ⟨.nil, nofun⟩
    | cons y older =>
      obtain ⟨hchain, hknown⟩ := ih h.2
      cases hr : x.report with
      | none =>
        have hsame : reports (x :: y :: older) = reports (y :: older) :=
          List.filterMap_cons_none hr
        rw [hsame]
        exact ⟨hchain, hknown⟩
      | some v =>
        have hcons : reports (x :: y :: older) = v :: reports (y :: older) :=
          List.filterMap_cons_some hr
        have hdue := (h.1 v).1 hr
        obtain ⟨rfl, -⟩ := due_iff.1 hdue
        rw [hcons]
        refine ⟨List.isChain_cons.2 ⟨?_, hchain⟩, ?_⟩
        · rintro _ hlast rfl
          exact hdue.news hlast
        · exact List.forall_mem_cons.2 ⟨c.shows_known _, hknown⟩

/-- **Debounce**: with polls less than 2^31 apart and a debounce time below that, a poll reports a
door exactly if all readings since the last change of level show it, the first of them is at least
the debounce time ago, and it was not the last report, however long the run is and however often the
clock wraps. So the reports alternate between an open and a closed door. -/
theorem reports_debounced (c : Contact) (hd : c.debounce < 0x80000000) (began : Nat)
    (gaps : List Nat) (hpace : ∀ gap ∈ gaps, gap < 2 ^ 31) :
    (c.start (.ofNat began)).Ensures (Watch.surroundings c.pin) (fun c' w =>
      c'.Throughout (fun w' =>
        (w'.readings.map (·.time)).reverse = gaps.scanl (· + ·) began ∧
        c.Exact w'.readings ∧
        (reports w'.readings).IsChain (· ≠ ·) ∧
        ∀ v ∈ reports w'.readings, v = .opened ∨ v = .closed) gaps w) { now := began } := by
  refine (c.start_kept began).mono fun c' w h => ?_
  refine Throughout.mono (fun w' h' => ?_) gaps (h.throughout hd gaps hpace)
  exact ⟨h'.1, h'.2, h'.2.alternate⟩

/-- The usual door, polled while it bounces, then left alone for longer than the clock lasts, and
moved again. -/
theorem usual_reports_debounced :
    (({ pin := 2 } : Contact).debounce < 0x80000000 ∧
      ∀ gap ∈ [60, 40, 20, 20, 49, 1, 2 ^ 31 - 1, 2 ^ 31 - 1, 2 ^ 31 - 1, 10, 50], gap < 2 ^ 31) ∧
    (({ pin := 2 } : Contact).start (.ofNat 1000)).Ensures (Watch.surroundings 2) (fun c' w =>
      c'.Throughout (fun w' =>
        (w'.readings.map (·.time)).reverse =
          [60, 40, 20, 20, 49, 1, 2 ^ 31 - 1, 2 ^ 31 - 1, 2 ^ 31 - 1, 10, 50].scanl (· + ·) 1000 ∧
        ({ pin := 2 } : Contact).Exact w'.readings ∧
        (reports w'.readings).IsChain (· ≠ ·) ∧
        ∀ v ∈ reports w'.readings, v = .opened ∨ v = .closed)
        [60, 40, 20, 20, 49, 1, 2 ^ 31 - 1, 2 ^ 31 - 1, 2 ^ 31 - 1, 10, 50] w) { now := 1000 } :=
  ⟨by decide, reports_debounced { pin := 2 } (by decide) 1000 _ (by decide)⟩

end Contact

end DoorControl
