import DoorControl.Proofs.Device.Mailbox
import DoorControl.Proofs.Words

/-!
The language of the console: what a line asks for is decided by its first word as a whole, in any
letter case, although only the start of a long word is looked at. A line that is no command asks the
surroundings for nothing.
-/

namespace DoorControl

open Bytes

namespace Bytes

lemma matchesWord_take_iff {s word : Bytes} {n : Nat} (hs : ∀ b ∈ s, isBlank b = false)
    (hlower : word.map lower = word) (hlen : word.length < n) :
    matchesWord (s.take n) word = true ↔ s.map lower = word := by
  have hbody : ∀ b ∈ s.take n, isBlank b = false := fun b hb => hs b (List.mem_of_mem_take hb)
  have htrim : trim ([] ++ s.take n ++ []) = s.take n := trim_append nofun nofun hbody
  rw [List.nil_append, List.append_nil] at htrim
  rw [matchesWord, beq_iff_eq, htrim, hlower, List.map_take]
  constructor
  · intro h
    have hshort : (s.map lower).length ≤ n := by
      by_contra hlong
      have hcut := congrArg List.length h
      rw [List.length_take] at hcut
      omega
    rwa [List.take_of_length_le hshort] at h
  · rintro rfl
    exact List.take_of_length_le (Nat.le_of_lt hlen)

end Bytes

namespace Command

/-! ### The words of a line -/

/-- The first word of a line: its first run of bytes that are no blanks. -/
def word (line : Bytes) : Bytes := (skipBlanks line).takeWhile isWordByte

/-- What comes behind the first word and the blanks after it. -/
def behind (line : Bytes) : Bytes := skipBlanks ((skipBlanks line).dropWhile isWordByte)

/-- The first word of the line is `w`, in any letter case. -/
def Says (line : Bytes) (w : String) : Prop := (word line).map lower = ascii w

variable {line : Bytes} {w w' : String}

lemma Says.iff (h : Says line w) : Says line w' ↔ ascii w = ascii w' := by
  rw [Says, show (word line).map lower = ascii w from h]

/-- The part of the first word that is looked at tells short words. -/
lemma matchesWord_word_iff (line : Bytes) (w : String) (hlower : (ascii w).map lower = ascii w)
    (hlen : (ascii w).length < 15) :
    matchesWord ((word line).take wordLength) (ascii w) = true ↔ Says line w := by
  refine matchesWord_take_iff (fun b hb => ?_) hlower hlen
  have hword : isWordByte b = true := List.mem_takeWhile_imp hb
  simpa [isWordByte] using hword

/-- What a line asks for, told by its first word. -/
inductive Means (line : Bytes) : Command → Prop
  | lock (h : Says line "lock") : Means line (.setLock .locked)
  | unlock (h : Says line "unlock") : Means line (.setLock .unlocked)
  | status (h : Says line "status") : Means line .status
  | reset (h : Says line "reset") : Means line .reset
  | config (h : Says line "config") : Means line (.config (behind line))
  | unknown (start : Bytes)
    (h : ∀ w ∈ ["lock", "unlock", "status", "reset", "config"], ¬Says line w) :
    Means line (.unknown start)

lemma ofLine_means (line : Bytes) : Means line (ofLine line) := by
  have hlock := matchesWord_word_iff line "lock" rfl (by decide)
  have hunlock := matchesWord_word_iff line "unlock" rfl (by decide)
  have hstatus := matchesWord_word_iff line "status" rfl (by decide)
  have hreset := matchesWord_word_iff line "reset" rfl (by decide)
  have hconfig := matchesWord_word_iff line "config" rfl (by decide)
  dsimp only [ofLine]
  split_ifs with h₁ h₂ h₃ h₄ h₅
  · exact .lock (hlock.1 h₁)
  · exact .unlock (hunlock.1 h₂)
  · exact .status (hstatus.1 h₃)
  · exact .reset (hreset.1 h₄)
  · exact .config (hconfig.1 h₅)
  · refine .unknown _ ?_
    simp only [List.forall_mem_cons, List.not_mem_nil, false_implies, implies_true, and_true]
    exact ⟨mt hlock.2 h₁, mt hunlock.2 h₂, mt hstatus.2 h₃, mt hreset.2 h₄, mt hconfig.2 h₅⟩

/-! ### What is done about a line -/

/-- The event that asks for a lock state. -/
def lockEvent (l : LockState) (now : Clock) : Event :=
  { kind := .externalLockCommand, time := now, arg := l.code }

/-- The event that asks for a factory reset. -/
def resetEvent (now : Clock) : Event :=
  { kind := .resetRequested, time := now, arg := Event.fromConsole }

/-- What a command calls for, where the surroundings accept it. -/
def calls (now : Clock) : Command → List Hardware.Call
  | setLock l => [.post (lockEvent l now)]
  | reset => [.post (resetEvent now)]
  | config fields =>
    match Fields.read fields with
    | (none, s) => [.offer s, .post (Desk.told now)]
    | (some _, _) => []
  | status | unknown _ => []

/-- A status line asks for nothing and is accepted all the same. -/
def isStatus : Command → Bool
  | status => true
  | _ => false

/-- A desk whose exchanges are kept, the newest first. -/
def watched : Surroundings Hardware (Desk × List (Exchange Hardware)) :=
  Desk.surroundings.both (.history Hardware)

/-- The calls that were made, the oldest first. -/
def made (h : List (Exchange Hardware)) : List Hardware.Call := (h.map (·.call)).reverse

/-- A command makes its calls and no others, and is accepted when it makes any. -/
lemma run_made (d : Device) (now : Clock) (c : Command) {k : Desk} (hroom : k.room = true)
    (haccepting : k.accepting = true) :
    (c.run d now).Ensures watched (fun reply w =>
      made w.2 = c.calls now ∧ (reply.accepted = true ↔ made w.2 ≠ [] ∨ c.isStatus = true))
      (k, []) := by
  cases c with
  | setLock l =>
    rintro ok ⟨k', h⟩ ⟨⟨hok, -⟩, hh⟩
    obtain rfl : h = _ := hh
    obtain rfl : ok = true := hok.trans hroom
    exact ⟨rfl, by simp [Reply.accepted, made]⟩
  | reset =>
    rintro ok ⟨k', h⟩ ⟨⟨hok, -⟩, hh⟩
    obtain rfl : h = _ := hh
    obtain rfl : ok = true := hok.trans hroom
    exact ⟨rfl, by simp [Reply.accepted, made]⟩
  | status => exact ⟨rfl, by simp [Reply.accepted, isStatus]⟩
  | unknown word => exact ⟨rfl, by simp [Reply.accepted, isStatus, made]⟩
  | config fields =>
    simp only [run, calls]
    rcases Fields.read fields with ⟨_ | e, s⟩
    · rintro ok ⟨k', h⟩ ⟨⟨hok, hk'⟩, hh⟩
      obtain rfl : h = _ := hh
      obtain rfl : ok = true := hok.trans haccepting
      obtain rfl : k' = k.offer s := hk'
      rintro ok ⟨k', h⟩ ⟨⟨hok, -⟩, hh⟩
      obtain rfl : h = _ := hh
      obtain rfl : ok = true := hok.trans ((k.offer_room s).trans hroom)
      exact ⟨rfl, by simp [Reply.accepted, made]⟩
    · exact ⟨rfl, by simp [Reply.accepted, isStatus, made]⟩

/-! ### Main result -/

/-- What is done about a line, by its first word and what comes behind it: the calls that are made,
and the reply. -/
structure Obeyed (line : Bytes) (now : Clock) (reply : Reply) (calls : List Hardware.Call) :
    Prop where
  locks : calls = [.post (lockEvent .locked now)] ↔ Says line "lock"
  unlocks : calls = [.post (lockEvent .unlocked now)] ↔ Says line "unlock"
  resets : calls = [.post (resetEvent now)] ↔ Says line "reset"
  submits (s : Submission) : calls = [.offer s, .post (Desk.told now)] ↔
    Says line "config" ∧ Fields.read (behind line) = (none, s)
  others : ¬Says line "lock" → ¬Says line "unlock" → ¬Says line "reset" →
    ¬(Says line "config" ∧ (Fields.read (behind line)).1 = none) → calls = []
  accepted : reply.accepted = true ↔ calls ≠ [] ∨ Says line "status"

/-- The calls of a command tell what the line said, and the other way around. -/
lemma Means.obeyed {c : Command} {now : Clock} {reply : Reply} (hm : Means line c)
    (hreply : reply.accepted = true ↔ c.calls now ≠ [] ∨ c.isStatus = true) :
    Obeyed line now reply (c.calls now) := by
  -- The first word is one command at most, so what it says settles what it does not.
  cases hm with
  | lock h => constructor <;> simp +decide [calls, lockEvent, resetEvent, h.iff, hreply]
  | unlock h => constructor <;> simp +decide [calls, lockEvent, resetEvent, h.iff, hreply]
  | status h => constructor <;> simp +decide [calls, h.iff, hreply]
  | reset h => constructor <;> simp +decide [calls, lockEvent, resetEvent, h.iff, hreply]
  | config h =>
    cases hread : Fields.read (behind line) with
    | mk e s =>
      simp only [calls, hread] at hreply ⊢
      cases e with
      | none => constructor <;> simp +decide [h.iff, hread, hreply]
      | some e => constructor <;> simp +decide [h.iff, hread, hreply, isStatus]
  | unknown start h =>
    simp only [List.forall_mem_cons, List.not_mem_nil, false_implies, implies_true, and_true] at h
    constructor <;> simp [calls, h, hreply, isStatus]

end Command

namespace Device

open Command

/-- **The language of the console**: where the mailbox and the queue accept what they are given, a
line has one lock command posted, a factory reset, or a submission with its event, exactly when its
first word is the command in any letter case, and the fields of a `config` line can be read. Any
other line calls for nothing, a word that only starts like a command too; accepted are the lines
that call for something, and `status`. -/
theorem console_language (d : Device) (line : Bytes) (now : Clock) {k : Desk}
    (hroom : k.room = true) (haccepting : k.accepting = true) :
    (d.command line now).Ensures watched (fun reply w => Obeyed line now reply (made w.2))
      (k, []) := by
  refine (run_made d now (ofLine line) hroom haccepting).mono fun reply w h => ?_
  obtain ⟨hmade, hreply⟩ := h
  rw [hmade] at hreply ⊢
  exact (ofLine_means line).obeyed hreply

/-- The word is what counts, not what comes around it. -/
theorem console_language_unlock :
    let line := ascii " UnLock the door"
    let k : Desk := { capacity := 1 }
    (k.room = true ∧ k.accepting = true ∧ Says line "unlock") ∧
    ((new {}).command line 7).Ensures watched (fun reply w => Obeyed line 7 reply (made w.2))
      (k, []) := by
  intro line k
  exact ⟨⟨rfl, rfl, rfl⟩, console_language (new {}) line 7 rfl rfl⟩

end Device

end DoorControl
