import DoorControl.Proofs.Schedule

/-!
Attempts that do not get stuck. Next to the tally the time of the last attempt is kept, so that the
age of an attempt is known in time that never wraps.
-/

namespace DoorControl

open Program

lemma doubled_pos {cap : UInt32} (hcap : 0 < cap) (n : Nat) {d : UInt32} (hd : 0 < d) :
    0 < doubled cap n d := by
  induction n generalizing d with
  | zero =>
    unfold doubled
    split
    · exact hd
    · exact hcap
  | succ n ih =>
    unfold doubled
    split
    · exact hcap
    · rename_i hhalf
      refine ih ?_
      simp only [UInt32.le_iff_toNat_le, UInt32.lt_iff_toNat_lt, UInt32.toNat_div, UInt32.toNat_mul,
        UInt32.reduceToNat] at hd hhalf ⊢
      have := cap.toNat_lt
      omega

lemma backoffDelay_pos {base cap : UInt32} (hbase : 1 ≤ base) (hcap : base ≤ cap) (n : UInt8) :
    0 < (backoffDelay base cap n).toNat := by
  simp only [UInt32.le_iff_toNat_le, UInt32.reduceToNat] at hbase hcap
  have hpos {d : UInt32} (hd : 0 < d.toNat) : 0 < d := UInt32.lt_iff_toNat_lt.2 hd
  exact UInt32.lt_iff_toNat_lt.1 (doubled_pos (hpos (by omega)) _ (hpos (by omega)))

namespace Tally

variable {o o' : Tally}

/-- When the last attempt was made: in the present operation, if it made one, or before. -/
def attemptedAt (o : Tally) (attempts before : Nat) : Nat :=
  if o.attempts = attempts then before else o.now

lemma attemptedAt_asked (o : Tally) (before : Nat) :
    (o.see .asked).attemptedAt o.attempts before = o.now := if_neg (Nat.succ_ne_self _)

/-! ### What an operation makes of a tally -/

/-- A tally in the course of an operation that began with another. -/
structure Within (o o' : Tally) : Prop where
  now : o'.now = o.now
  polled : o'.polled = o.polled
  /-- A failure that was not there is one of now. -/
  failed : o' = o ∨ (o'.Waits → o'.failedAt = o'.now)

lemma Within.refl (o : Tally) : o.Within o := ⟨rfl, rfl, .inl rfl⟩

lemma Within.see (h : o.Within o') (x : Sign) : o.Within (o'.see x) := by
  cases x with
  | asked => exact ⟨h.now, h.polled, .inr fun hw => by simp [see_waits] at hw⟩
  | failed => exact ⟨h.now, h.polled, .inr fun _ => rfl⟩
  | succeeded => exact ⟨h.now, h.polled, .inr fun hw => by simp [see_waits] at hw⟩

lemma ensures_within {α : Type} {sign : Hardware.Call → Option Sign} (p : Program Hardware α)
    (h : o.Within o') : p.Ensures (surroundings sign) (fun _ o'' => o.Within o'') o' := by
  induction p generalizing o' with
  | done a => exact h
  | call c next ih =>
    rintro r _ rfl
    refine ih r ?_
    cases sign c with
    | none => exact h
    | some x => exact h.see x

/-- The attempt to come is ahead, and the clock can tell. -/
def Ahead (o : Tally) (base cap : UInt32) : Prop :=
  o.now < o.due base cap ∧ o.due base cap < o.now + 2 ^ 31

instance (o : Tally) (base cap : UInt32) : Decidable (o.Ahead base cap) :=
  inferInstanceAs (Decidable (_ ∧ _))

lemma lt_due {base cap : UInt32} (hbase : 1 ≤ base) (hcap : base ≤ cap) (h : o.failedAt = o.now) :
    o.now < o.due base cap := by
  rw [due, h]
  exact Nat.lt_add_of_pos_right (backoffDelay_pos hbase hcap _)

lemma Past.due_lt (h : o.Past) {cap : UInt32} (hmax : cap < 0x80000000) (base : UInt32) :
    o.due base cap < o.now + 2 ^ 31 := by
  have hdelay : (o.delay base cap).toNat ≤ cap.toNat :=
    UInt32.le_iff_toNat_le.1 (doubled_le cap _ _)
  have hcap : cap.toNat < 2 ^ 31 := UInt32.lt_iff_toNat_lt.1 hmax
  have hpast := h.failedAt
  unfold due
  omega

/-! ### Young attempts -/

/-- The attempt that was made at `began` was younger than a limit in the last update, and its time
stands on the clock. -/
structure Young (o : Tally) (limit : UInt32) (startedAt : Clock) (began : Nat) : Prop where
  reading : startedAt = .ofNat began
  past : began ≤ o.now
  young : ∃ last ∈ o.polled, last < began + limit.toNat

variable {limit : UInt32} {startedAt : Clock} {began : Nat}

lemma Young.new (hpast : o.Past) (hpolled : o.polled ≠ none) (hlimit : 1 ≤ limit) :
    o.Young limit (.ofNat o.now) o.now where
  reading := rfl
  past := Nat.le_refl _
  young := by
    obtain ⟨last, hlast⟩ := Option.ne_none_iff_exists'.1 hpolled
    have := hpast.polled last hlast
    have : 1 ≤ limit.toNat := UInt32.le_iff_toNat_le.1 hlimit
    exact ⟨last, hlast, by omega⟩

end Tally

namespace Retrier

variable {S Op : Type} {m : Retrier S Op} {o o' : Tally} {time began : Nat} {op : Op}
  {limit : UInt32} {startedAt : Clock}

lemma begin_attemptedAt (before : Nat) :
    (m.begin o time op).attemptedAt o.attempts before = before := if_pos rfl

/-- An attempt stays young if no update finds it too old. -/
lemma Timely.young (ht : m.Timely o time op) (h : o.Young limit startedAt began)
    (hop : m.updates op = true → time < began + limit.toNat) :
    (m.begin o time op).Young limit startedAt began where
  reading := h.reading
  past := Nat.le_trans h.past ht.forward
  young := by
    obtain ⟨last, hlast, hyoung⟩ := h.young
    by_cases hup : m.updates op = true
    · exact ⟨time, by simp [begin, hup], hop hup⟩
    · exact ⟨last, by simp [begin, hup, Option.mem_def.1 hlast], hyoung⟩

/-- An attempt that is young after an update was made by then, and its time is not over. -/
lemma young_of_within (hup : m.updates op = true) (hw : (m.begin o time op).Within o')
    (h : o'.Young limit startedAt began) : began ≤ o'.now ∧ o'.now < began + limit.toNat := by
  obtain ⟨last, hlast, hyoung⟩ := h.young
  rw [hw.polled, begin, if_pos hup] at hlast
  obtain rfl : time = last := Option.some.inj hlast
  exact ⟨h.past, hw.now ▸ hyoung⟩

/-- An update reads the age of an attempt right. -/
lemma Timely.expired_iff (ht : m.Timely o time op) (hup : m.updates op = true)
    (h : o.Young limit startedAt began) (hlimit : limit < 0x80000000) :
    limit ≤ UInt32.ofNat time - startedAt ↔ began + limit.toNat ≤ time := by
  obtain ⟨last, hlast, hyoung⟩ := h.young
  have hpaced := ht.paced hup last hlast
  have hpast := Nat.le_trans h.past ht.forward
  have hmax : limit.toNat < 2 ^ 31 := UInt32.lt_iff_toNat_lt.1 hlimit
  rw [UInt32.le_iff_toNat_le, h.reading, Clock.toNat_sub_ofNat hpast (by omega)]
  omega

/-- After an operation that ends in a wait, the attempt to come is ahead, unless the wait is an old
one and over. -/
lemma ahead_of_waits {base cap : UInt32} (hbase : 1 ≤ base) (hcap : base ≤ cap)
    (hmax : cap < 0x80000000) (hw : (m.begin o time op).Within o') (hpast : o'.Past)
    (hwaits : o'.Waits)
    (hearly : o.Waits → o'.attempts = o.attempts → time < o.due base cap) :
    o'.Ahead base cap := by
  refine ⟨?_, hpast.due_lt hmax base⟩
  rcases hw.failed with rfl | hfailed
  · exact hearly hwaits rfl
  · exact Tally.lt_due hbase hcap (hfailed hwaits)

/-! ### Operations with the time of the last attempt -/

/-- Whatever is answered, `post` holds after the operations and of the time of the last attempt, if
each operation comes in time. What counts as an update may depend on what is there. -/
def Watched (m : S → Retrier S Op) (post : S → Tally → Nat → Prop) :
    List (Nat × Op) → S → Tally → Nat → Prop
  | [], s, o, began => post s o began
  | (time, op) :: rest, s, o, began => (m s).Timely o time op →
    ((m s).perform s op).Ensures (Tally.surroundings (m s).sign)
      (fun s' o' => Watched m post rest s' o' (o'.attemptedAt o.attempts began))
      ((m s).begin o time op)

lemma watched_of_keep {m : S → Retrier S Op} {keep post : S → Tally → Nat → Prop}
    (hkeep : ∀ s o began time op, keep s o began → (m s).Timely o time op →
      ((m s).perform s op).Ensures (Tally.surroundings (m s).sign)
        (fun s' o' => keep s' o' (o'.attemptedAt o.attempts began)) ((m s).begin o time op))
    (hpost : ∀ s o began, keep s o began → post s o began) (ops : List (Nat × Op)) {s : S}
    {o : Tally} {began : Nat} (hs : keep s o began) : Watched m post ops s o began := by
  induction ops generalizing s o began with
  | nil => exact hpost s o began hs
  | cons x rest ih =>
    exact fun ht => (hkeep s o began x.1 x.2 hs ht).mono fun s' o' hs' => ih hs'

end Retrier

end DoorControl
