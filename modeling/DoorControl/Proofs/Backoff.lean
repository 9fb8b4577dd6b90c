import Mathlib.Algebra.Order.Ring.Nat
import Mathlib.Tactic.Common
import DoorControl.Clock

/-!
The delay before a retry, told in numbers that do not wrap: the base doubled once for each attempt
before, up to the cap. The doubling looks ahead by halving the cap. An odd cap is halved to less
than its half, so that a delay which doubles to one less than the cap is taken to be at the cap.
-/

namespace DoorControl

/-- The delays that the doubling comes to, one after another, until it stops at the cap. -/
def delays (cap : UInt32) : Nat → UInt32 → List UInt32
  | 0, d => [d]
  | n + 1, d => d :: if cap / 2 ≤ d then [] else delays cap n (d * 2)

variable {cap d e : UInt32}

lemma half_le_iff : cap / 2 ≤ d ↔ cap.toNat ≤ 2 * d.toNat + 1 := by
  simp only [UInt32.le_iff_toNat_le, UInt32.toNat_div, UInt32.reduceToNat]
  omega

lemma toNat_double (h : ¬cap / 2 ≤ d) : (d * 2).toNat = d.toNat * 2 := by
  rw [half_le_iff] at h
  have hcap := cap.toNat_lt
  simp only [UInt32.toNat_mul, UInt32.reduceToNat]
  omega

/-- Doubling to the end is coming to the last delay, if it does not stop before. -/
lemma doubled_eq (cap : UInt32) (n : Nat) (d : UInt32) :
    doubled cap n d =
      (((delays cap n d)[n]?).map fun e => if e < cap then e else cap).getD cap := by
  induction n generalizing d with
  | zero => rfl
  | succ n ih =>
    rw [doubled, delays, List.getElem?_cons_succ]
    split
    · rfl
    · exact ih _

/-- No doubling wraps. -/
lemma toNat_of_delays {n i : Nat} (h : (delays cap n d)[i]? = some e) :
    e.toNat = d.toNat * 2 ^ i := by
  induction n generalizing d i with
  | zero =>
    cases i with
    | zero =>
      obtain rfl : d = e := Option.some.inj h
      exact (Nat.mul_one _).symm
    | succ i => cases h
  | succ n ih =>
    cases i with
    | zero =>
      obtain rfl : d = e := Option.some.inj h
      exact (Nat.mul_one _).symm
    | succ i =>
      rw [delays, List.getElem?_cons_succ] at h
      split at h
      · cases h
      · rename_i hroom
        calc e.toNat = (d * 2).toNat * 2 ^ i := ih h
          _ = d.toNat * 2 * 2 ^ i := by rw [toNat_double hroom]
          _ = d.toNat * 2 ^ (i + 1) := by rw [Nat.pow_succ', Nat.mul_assoc]

/-- A delay that doubles to one less than the cap comes to the cap. -/
lemma toNat_doubled (cap : UInt32) (n : Nat) (d : UInt32) :
    (doubled cap n d).toNat =
      if 0 < n ∧ d.toNat * 2 ^ n + 1 = cap.toNat then cap.toNat
      else min cap.toNat (d.toNat * 2 ^ n) := by
  induction n generalizing d with
  | zero =>
    simp only [doubled, Nat.lt_irrefl, false_and, if_false, Nat.pow_zero, Nat.mul_one,
      UInt32.lt_iff_toNat_lt]
    split <;> omega
  | succ n ih =>
    rw [doubled]
    split
    · rename_i hstop
      -- twice the delay is at most one short of the cap, and is doubled further
      have hcap := half_le_iff.1 hstop
      have hgrow : 2 * d.toNat ≤ d.toNat * 2 ^ (n + 1) := by
        rw [Nat.mul_comm 2]
        exact Nat.mul_le_mul_left _ (Nat.le_self_pow (Nat.succ_ne_zero n) 2)
      split <;> omega
    · rename_i hgo
      rw [ih, toNat_double hgo, Nat.mul_assoc, ← Nat.pow_succ']
      rw [half_le_iff] at hgo
      cases n with
      | zero =>
        rw [if_neg (by simp), if_neg (by omega)]
      | succ n => simp only [Nat.succ_pos, true_and]

/-- **The delay in numbers that do not wrap**: it is the base doubled once for each attempt before,
or the cap if that is less, but where the doubled base is one less than the cap the delay is the
cap. The delays that the doubling comes to, of which it gives the last unless it stops before, are
the doubled base as it is. -/
theorem backoffDelay_unbounded (base cap : UInt32) (attempt : UInt8) :
    ((backoffDelay base cap attempt).toNat =
      if 0 < attempt.toNat ∧ base.toNat * 2 ^ attempt.toNat + 1 = cap.toNat then cap.toNat
      else min cap.toNat (base.toNat * 2 ^ attempt.toNat)) ∧
    backoffDelay base cap attempt = (((delays cap attempt.toNat base)[attempt.toNat]?).map
      fun d => if d < cap then d else cap).getD cap ∧
    ∀ i d, (delays cap attempt.toNat base)[i]? = some d → d.toNat = base.toNat * 2 ^ i :=
  ⟨toNat_doubled cap _ base, doubled_eq cap _ base, fun _ _ => toNat_of_delays⟩

/-- Three doubled is one less than seven. -/
example : backoffDelay 3 7 1 = 7 := by decide

end DoorControl
