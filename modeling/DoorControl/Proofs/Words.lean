import Mathlib.Data.List.TakeWhile
import DoorControl.Session.Document

/-!
Words of a text: what it is without the blanks around it, in any letter case. The commands from the
broker are such words.
-/

namespace DoorControl

namespace Bytes

/-- Nothing but blanks. -/
def Blank (s : Bytes) : Prop := ∀ b ∈ s, isBlank b = true

/-- The text is the word, with blanks around it perhaps, and in any letter case. -/
def Spells (s word : Bytes) : Prop :=
  ∃ before body after, s = before ++ body ++ after ∧ Blank before ∧ Blank after ∧
    body.map lower = word.map lower

variable {s word before body after : Bytes}

lemma isBlank_lower (b : UInt8) : isBlank (lower b) = isBlank b := by
  unfold lower isBlank
  grind

lemma Blank.reverse (h : Blank s) : Blank s.reverse := fun b hb => h b (List.mem_reverse.1 hb)

lemma blank_takeWhile (s : Bytes) : Blank (s.takeWhile isBlank) := fun _ => List.mem_takeWhile_imp

/-- What is trimmed off are blanks. -/
lemma trim_around (s : Bytes) :
    ∃ before after, s = before ++ trim s ++ after ∧ Blank before ∧ Blank after := by
  let behind := (skipBlanks s).reverse.takeWhile isBlank
  refine ⟨s.takeWhile isBlank, behind.reverse, ?_, blank_takeWhile s, (blank_takeWhile _).reverse⟩
  have hskip : trim s ++ behind.reverse = skipBlanks s := by
    rw [trim, ← List.reverse_append, List.takeWhile_append_dropWhile, List.reverse_reverse]
  rw [List.append_assoc, hskip, skipBlanks, List.takeWhile_append_dropWhile]

lemma trim_append (hbefore : Blank before) (hafter : Blank after)
    (hbody : ∀ b ∈ body, isBlank b = false) : trim (before ++ body ++ after) = body := by
  have hskip : skipBlanks (before ++ body ++ after) = skipBlanks (body ++ after) := by
    rw [skipBlanks, List.append_assoc, List.dropWhile_append_of_pos hbefore, skipBlanks]
  rw [trim, hskip]
  cases body with
  | nil =>
    have hnone : skipBlanks after = [] := List.dropWhile_eq_nil_iff.2 hafter
    rw [List.nil_append, hnone]
    rfl
  | cons b rest =>
    have hkeep : skipBlanks (b :: rest ++ after) = b :: rest ++ after :=
      List.dropWhile_cons_of_neg (by simp [hbody b List.mem_cons_self])
    have hlast : (b :: rest).reverse.dropWhile isBlank = (b :: rest).reverse := by
      refine List.dropWhile_eq_self_iff.2 fun hl => ?_
      exact Bool.eq_false_iff.1 (hbody _ (List.mem_reverse.1 (List.getElem_mem hl)))
    rw [hkeep, List.reverse_append, List.dropWhile_append_of_pos hafter.reverse, hlast,
      List.reverse_reverse]

/-- A word without blanks is matched by the texts that spell it. -/
lemma matchesWord_iff (hword : word.any isBlank = false) :
    matchesWord s word = true ↔ Spells s word := by
  rw [matchesWord, beq_iff_eq]
  constructor
  · intro h
    obtain ⟨before, after, hs, hbefore, hafter⟩ := trim_around s
    exact ⟨before, trim s, after, hs, hbefore, hafter, h⟩
  · rintro ⟨before, body, after, rfl, hbefore, hafter, hbody⟩
    have hnone : ∀ b ∈ body, isBlank b = false := by
      intro b hb
      have hmem : lower b ∈ word.map lower := hbody ▸ List.mem_map_of_mem hb
      obtain ⟨a, ha, hlower⟩ := List.mem_map.1 hmem
      rw [← isBlank_lower, ← hlower, isBlank_lower]
      exact Bool.eq_false_iff.2 (List.any_eq_false.1 hword a ha)
    rw [trim_append hbefore hafter hnone, hbody]

lemma untilNul_padded (s : Bytes) (n : Nat) : untilNul (s ++ List.replicate n 0) = untilNul s := by
  induction s with
  | nil => cases n <;> rfl
  | cons b s ih =>
    unfold untilNul at ih ⊢
    rw [List.cons_append, List.takeWhile_cons, List.takeWhile_cons, ih]

/-! ### Runs -/

section Runs

variable {p : UInt8 → Bool} {body rest : Bytes}

lemma takeWhile_run (hbody : ∀ b ∈ body, p b = true) (hrest : ∀ b ∈ rest.head?, p b = false) :
    (body ++ rest).takeWhile p = body := by
  rw [List.takeWhile_append_of_pos hbody]
  cases rest with
  | nil => exact List.append_nil body
  | cons b rest => rw [List.takeWhile_cons_of_neg (by simp [hrest b rfl]), List.append_nil]

lemma dropWhile_run (hbody : ∀ b ∈ body, p b = true) (hrest : ∀ b ∈ rest.head?, p b = false) :
    (body ++ rest).dropWhile p = rest := by
  rw [List.dropWhile_append_of_pos hbody]
  cases rest with
  | nil => rfl
  | cons b rest => exact List.dropWhile_cons_of_neg (by simp [hrest b rfl])

/-- Where a run was dropped, it stops. -/
lemma head?_dropWhile (p : UInt8 → Bool) (s : Bytes) :
    ∀ b ∈ (s.dropWhile p).head?, p b = false := by
  intro b hb
  have hnot := List.head?_dropWhile_not p s
  rw [Option.mem_def.1 hb] at hnot
  simpa using hnot

lemma skipBlanks_eq_nil_iff {s : Bytes} : skipBlanks s = [] ↔ Blank s := List.dropWhile_eq_nil_iff

end Runs

end Bytes

open Bytes

lemma Text.view_pad {w : Nat} {s : Bytes} (h : s.length ≤ w) :
    (Text.pad s : Text w).view = untilNul s := by
  have hbytes : (Text.pad s : Text w).bytes = s ++ List.replicate (w - s.length) 0 := by
    simp [Text.pad, List.take_append, List.take_replicate, List.take_of_length_le h]
  rw [Text.view, hbytes, untilNul_padded]

/-- The text is a command for the lock state. -/
def LockState.Asked (s : Bytes) (l : LockState) : Prop :=
  l = .locked ∧ Spells s (ascii "LOCK") ∨ l = .unlocked ∧ Spells s (ascii "UNLOCK")

/-- A text is a command for one lock state at most, the one that is read from it. -/
lemma LockState.ofCommand?_eq_some_iff {s : Bytes} {l : LockState} :
    LockState.ofCommand? s = some l ↔ LockState.Asked s l := by
  have hlock : matchesWord s (ascii "LOCK") = true ↔ Spells s (ascii "LOCK") :=
    matchesWord_iff rfl
  have hunlock : matchesWord s (ascii "UNLOCK") = true ↔ Spells s (ascii "UNLOCK") :=
    matchesWord_iff rfl
  have hone : ¬(matchesWord s (ascii "LOCK") = true ∧ matchesWord s (ascii "UNLOCK") = true) := by
    rintro ⟨h, h'⟩
    exact absurd ((beq_iff_eq.1 h).symm.trans (beq_iff_eq.1 h')) (by decide)
  rw [LockState.Asked, ← hlock, ← hunlock, LockState.ofCommand?]
  by_cases h : matchesWord s (ascii "LOCK") = true
  · have h' : ¬matchesWord s (ascii "UNLOCK") = true := fun h' => hone ⟨h, h'⟩
    simp [h, h', eq_comm]
  · by_cases h' : matchesWord s (ascii "UNLOCK") = true
    · simp [h, h', eq_comm]
    · simp [h, h']

end DoorControl
