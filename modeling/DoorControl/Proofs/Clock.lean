import Mathlib.Algebra.Order.Ring.Nat
import Mathlib.Tactic.Common
import DoorControl.Clock

/-!
The clock next to a time in milliseconds that never wraps.
-/

namespace DoorControl

namespace Clock

/-- Two times that are less than 2^31 apart are told in order by their readings. -/
lemma reached_ofNat {now target : Nat} (hnow : now < target + 2 ^ 31)
    (htarget : target < now + 2 ^ 31) :
    reached (.ofNat now) (.ofNat target) = true ↔ target ≤ now := by
  simp only [reached, decide_eq_true_eq, UInt32.toNat_sub, UInt32.toNat_ofNat']
  omega

/-- Less than 2^32 milliseconds between two readings are told right. -/
lemma toNat_sub_ofNat {began now : Nat} (h : began ≤ now) (hlt : now < began + 2 ^ 32) :
    (UInt32.ofNat now - UInt32.ofNat began).toNat = now - began := by
  simp only [UInt32.toNat_sub, UInt32.toNat_ofNat']
  omega

/-- However long it was between two readings, they tell no more than that. -/
lemma toNat_sub_ofNat_le {began now : Nat} (h : began ≤ now) :
    (UInt32.ofNat now - UInt32.ofNat began).toNat ≤ now - began := by
  simp only [UInt32.toNat_sub, UInt32.toNat_ofNat']
  omega

end Clock

end DoorControl
