import DoorControl.Proofs.Clock
import DoorControl.Proofs.Device.Standing

/-!
Attempts that are repeated on a schedule. A tally counts the attempts and failures in the calls that
something makes, and keeps the time in milliseconds that never wrap; from it, the time of the next
attempt is reckoned.
-/

namespace DoorControl

open Program

/-! ### The delays -/

lemma doubled_le (cap : UInt32) (n : Nat) (d : UInt32) : doubled cap n d ≤ cap := by
  induction n generalizing d with
  | zero =>
    unfold doubled
    split
    · exact UInt32.le_of_lt ‹_›
    · exact UInt32.le_refl _
  | succ n ih =>
    unfold doubled
    split
    · exact UInt32.le_refl _
    · exact ih _

lemma backoffDelay_zero {base cap : UInt32} (h : base ≤ cap) : backoffDelay base cap 0 = base := by
  simp only [backoffDelay, UInt8.toNat_zero, doubled, ite_eq_left_iff, UInt32.not_lt]
  exact fun hcap => UInt32.le_antisymm hcap h

/-- A counter of failures is right up to 255. -/
lemma countFailure_ofNat (n : Nat) :
    countFailure (.ofNat (min n 255)) = .ofNat (min (n + 1) 255) := by
  unfold countFailure
  rw [← UInt8.toNat_inj]
  split <;>
    simp only [UInt8.lt_iff_toNat_lt, UInt8.toNat_ofNat', UInt8.toNat_add, UInt8.reduceToNat] at * <;>
    omega

/-! ### Tallies -/

/-- What a call says of the attempts. -/
inductive Sign
  | asked
  | failed
  | succeeded
deriving DecidableEq

/-- What is known of the attempts from the calls that were made. -/
structure Tally where
  /-- The time of the present operation. -/
  now : Nat := 0
  /-- The time of the last update, or of the first start while there was none. -/
  polled : Option Nat := none
  /-- The present operation tells of a connection that was lost. -/
  losing : Bool := false
  /-- The newest sign. -/
  sign : Option Sign := none
  attempts : Nat := 0
  /-- Failures in a row since the last success. A loss is the first of a new row. -/
  streak : Nat := 0
  /-- The time of the last failure. -/
  failedAt : Nat := 0

namespace Tally

def see (o : Tally) : Sign → Tally
  | .asked => { o with sign := some .asked, attempts := o.attempts + 1 }
  | .failed => { o with
      sign := some .failed
      streak := if o.losing then 1 else o.streak + 1
      failedAt := o.now }
  | .succeeded => { o with sign := some .succeeded, streak := 0 }

/-- After the last failure there was no attempt yet. -/
def Waits (o : Tally) : Prop := o.sign = some .failed

/-- The delay after the `k`-th failure in a row is the one for `k - 1`, up to 255. -/
def delay (o : Tally) (base cap : UInt32) : UInt32 :=
  backoffDelay base cap (.ofNat (min (o.streak - 1) 255))

/-- The time of the next attempt. -/
def due (o : Tally) (base cap : UInt32) : Nat := o.failedAt + (o.delay base cap).toNat

/-- Surroundings that answer anything and keep a tally of the signs in the calls. -/
def surroundings (sign : Hardware.Call → Option Sign) : Surroundings Hardware Tally where
  may c o _ o' := o' = (sign c).elim o o.see

variable {o : Tally}

lemma see_waits {x : Sign} : (o.see x).Waits ↔ x = .failed := by cases x <;> simp [Waits, see]

lemma ensures_of_unsigned {α : Type} {sign : Hardware.Call → Option Sign} {p : Program Hardware α}
    {post : α → Prop} (hp : p.Confined (sign · = none) post) :
    p.Ensures (surroundings sign) (fun a o' => post a ∧ o' = o) o := by
  refine hp.ensures (K := (· = o)) ?_ rfl
  rintro c o r _ hc rfl rfl
  rw [hc]
  rfl

lemma due_failed {base cap : UInt32} {n : UInt8} {now : Clock} (hnow : now = .ofNat o.now)
    (hn : n = .ofNat (min (if o.losing then 0 else o.streak) 255)) :
    now + backoffDelay base cap n = .ofNat ((o.see .failed).due base cap) := by
  have hstreak : (o.see .failed).streak - 1 = if o.losing then 0 else o.streak := by
    simp only [see]
    split <;> rfl
  rw [due, delay, hstreak, ← hn, hnow, UInt32.ofNat_add, UInt32.ofNat_toNat]
  rfl

/-- What a tally tells of is past. -/
structure Past (o : Tally) : Prop where
  failedAt : o.failedAt ≤ o.now
  polled : ∀ last ∈ o.polled, last ≤ o.now

lemma Past.see (h : o.Past) (x : Sign) : (o.see x).Past := by
  cases x with
  | asked => exact ⟨h.failedAt, h.polled⟩
  | failed => exact ⟨Nat.le_refl _, h.polled⟩
  | succeeded => exact ⟨h.failedAt, h.polled⟩

/-- No update was late for the attempt to come. -/
def Prompt (o : Tally) (base cap : UInt32) : Prop := ∃ last ∈ o.polled, last ≤ o.due base cap

/-- An attempt to come is ahead of its failure. -/
lemma Past.prompt (h : o.Past) (hp : o.polled ≠ none) (base cap : UInt32) :
    (o.see .failed).Prompt base cap := by
  obtain ⟨last, hlast⟩ := Option.ne_none_iff_exists'.1 hp
  exact ⟨last, hlast, Nat.le_trans (h.polled last hlast) (Nat.le_add_right _ _)⟩

/-- A counter of failures and a time of the next attempt that go by the tally. -/
structure Paced (o : Tally) (base cap : UInt32) (count : UInt8) (retryAt : Clock) : Prop where
  past : o.Past
  failures : count = .ofNat (min o.streak 255)
  schedule : o.Waits → retryAt = .ofNat (o.due base cap)

namespace Paced

variable {base cap : UInt32} {count : UInt8} {retryAt now : Clock}

lemma asked (h : o.Paced base cap count retryAt) :
    (o.see .asked).Paced base cap count retryAt where
  past := h.past.see _
  failures := h.failures
  schedule hw := by simp [see_waits] at hw

lemma succeeded (h : o.Paced base cap count retryAt) :
    (o.see .succeeded).Paced base cap 0 retryAt where
  past := h.past.see _
  failures := rfl
  schedule hw := by simp [see_waits] at hw

lemma failed (h : o.Paced base cap count retryAt) (ho : o.losing = false)
    (hnow : now = .ofNat o.now) :
    (o.see .failed).Paced base cap (countFailure count)
      (now + backoffDelay base cap count) where
  past := h.past.see _
  failures := by
    have hstreak : (o.see .failed).streak = o.streak + 1 := by simp [see, ho]
    rw [hstreak, ← countFailure_ofNat, ← h.failures]
  schedule _ := due_failed hnow (by simpa [ho] using h.failures)

/-- A failure is the first of its row when it is a loss, or when there was none before it. -/
lemma lost (h : o.Paced base cap count retryAt) (ho : (if o.losing then 0 else o.streak) = 0)
    (hnow : now = .ofNat o.now) :
    (o.see .failed).Paced base cap 1 (now + backoffDelay base cap 0) where
  past := h.past.see _
  failures := by
    have hstreak : (o.see .failed).streak = 1 := by
      simp only [see]
      split <;> simp_all
    rw [hstreak]
    rfl
  schedule _ := due_failed hnow (by rw [ho]; rfl)

end Paced

end Tally

/-! ### Operations in time -/

/-- Something that attempts, by operations that are told the time. -/
structure Retrier (S Op : Type) where
  perform : S → Op → Program Hardware S
  sign : Hardware.Call → Option Sign
  /-- The reading of the clock that an operation is told. -/
  reading? : Op → Option Clock
  updates : Op → Bool
  starts : Op → Bool
  loses : Op → Bool
  /-- Which operations are within the rules at all. -/
  proper : Op → Prop

namespace Retrier

variable {S Op : Type} (m : Retrier S Op)

/-- The tally when an operation begins at a time. -/
def begin (o : Tally) (time : Nat) (op : Op) : Tally := { o with
  now := time
  losing := m.loses op
  polled := if m.updates op then some time
    else if m.starts op then o.polled.or (some time) else o.polled }

/-- A proper operation in time: time does not go back, the clock is right, and updates are less than
2^31 apart. -/
structure Timely (o : Tally) (time : Nat) (op : Op) : Prop where
  proper : m.proper op
  forward : o.now ≤ time
  right : ∀ now ∈ m.reading? op, now = .ofNat time
  paced : m.updates op = true → ∀ last ∈ o.polled, time < last + 2 ^ 31

/-- Whatever is answered, `post` holds after the operations if each comes in time. -/
def Throughout (post : S → Tally → Prop) : List (Nat × Op) → S → Tally → Prop
  | [], s, o => post s o
  | (time, op) :: rest, s, o => m.Timely o time op →
    (m.perform s op).Ensures (Tally.surroundings m.sign) (Throughout post rest) (m.begin o time op)

variable {m} {o : Tally} {time : Nat} {op : Op}

lemma Timely.past (ht : m.Timely o time op) (h : o.Past) : (m.begin o time op).Past where
  failedAt := Nat.le_trans h.failedAt ht.forward
  polled last hlast := by
    have hold (hl : last ∈ o.polled) : last ≤ time := Nat.le_trans (h.polled last hl) ht.forward
    simp only [begin] at hlast
    split at hlast
    · obtain rfl := Option.some.inj hlast
      exact Nat.le_refl _
    split at hlast
    · rcases Option.or_eq_some_iff.1 hlast with hl | ⟨-, hl⟩
      · exact hold hl
      · obtain rfl := Option.some.inj hl
        exact Nat.le_refl _
    · exact hold hlast

lemma Timely.reckoned (ht : m.Timely o time op) {base cap : UInt32} {count : UInt8}
    {retryAt : Clock} (h : o.Paced base cap count retryAt) :
    (m.begin o time op).Paced base cap count retryAt :=
  ⟨ht.past h.past, h.failures, h.schedule⟩

lemma begin_polled (h : o.polled ≠ none) : (m.begin o time op).polled ≠ none := by
  unfold begin
  split
  · nofun
  split
  · simp
  · exact h

/-- To begin is not late, unless it is an update past the time. -/
lemma begin_prompt {base cap : UInt32} (h : o.Prompt base cap)
    (hop : m.updates op = true → time ≤ o.due base cap) :
    (m.begin o time op).Prompt base cap := by
  obtain ⟨last, hlast, hdue⟩ := h
  by_cases hup : m.updates op = true
  · exact ⟨time, by simp [begin, hup], hop hup⟩
  · exact ⟨last, by simp [begin, hup, Option.mem_def.1 hlast], hdue⟩

/-- In an update, the clock tells whether the time of the attempt to come is reached. -/
lemma Timely.reached_iff (ht : m.Timely o time op) (hup : m.updates op = true) (h : o.Past)
    {base cap : UInt32} (hcap : cap < 0x80000000) (hp : o.Prompt base cap) :
    Clock.reached (.ofNat time) (.ofNat (o.due base cap)) = true ↔ o.due base cap ≤ time := by
  obtain ⟨last, hlast, hdue⟩ := hp
  have hpaced := ht.paced hup last hlast
  have hpast := Nat.le_trans h.failedAt ht.forward
  have hdelay : (o.delay base cap).toNat ≤ cap.toNat := UInt32.le_iff_toNat_le.1 (doubled_le cap _ _)
  have hmax : cap.toNat < 2 ^ 31 := UInt32.lt_iff_toNat_lt.1 hcap
  have hahead : o.due base cap = o.failedAt + (o.delay base cap).toNat := rfl
  exact Clock.reached_ofNat (by omega) (by omega)

lemma throughout_of_keep {keep post : S → Tally → Prop}
    (hkeep : ∀ s o time op, keep s o → m.Timely o time op →
      (m.perform s op).Ensures (Tally.surroundings m.sign) keep (m.begin o time op))
    (hpost : ∀ s o, keep s o → post s o) (ops : List (Nat × Op)) {s : S} {o : Tally}
    (hs : keep s o) : m.Throughout post ops s o := by
  induction ops generalizing s o with
  | nil => exact hpost s o hs
  | cons x rest ih => exact fun ht => (hkeep s o x.1 x.2 hs ht).mono fun s' o' hs' => ih hs'

end Retrier

end DoorControl
