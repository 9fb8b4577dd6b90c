import Mathlib.Algebra.Order.Ring.Nat
import DoorControl.Snapshot

/-!
What is read out of a snapshot: the state that was packed, as long as every code fits its place.
-/

namespace DoorControl

/-- The codes that are packed without spilling into their neighbours. -/
structure SystemState.Fits (s : SystemState) : Prop where
  lock : s.lock.code ≤ 1
  door : s.door.code ≤ 3
  color : s.light.color.code ≤ 3

lemma SystemState.Fits.digits {s : SystemState} (h : s.Fits) :
    s.lock.code.toNat ≤ 1 ∧ s.door.code.toNat ≤ 3 ∧ s.link.code.toNat ≤ 4 ∧
      s.session.code.toNat ≤ 4 ∧ s.setup.toNat ≤ 1 ∧ s.light.color.code.toNat ≤ 3 ∧
      s.light.blink.toNat ≤ 1 ∧ s.attempt.toNat < 256 := by
  refine ⟨h.lock, h.door, ?_, ?_, Bool.toNat_le _, h.color, Bool.toNat_le _, s.attempt.toNat_lt⟩
  · cases s.link <;> decide
  · cases s.session <;> decide

namespace Snapshot

/-- A snapshot is of a state. -/
structure Shows (x : Snapshot) (s : SystemState) : Prop where
  lock : x.lock = s.lock
  door : x.door = s.door
  link : x.linkCode = s.link.code
  session : x.sessionCode = s.session.code
  attempt : x.attempt = s.attempt
  setup : x.setup = s.setup
  color : x.color = s.light.color
  blink : x.blink = s.light.blink

lemma or_shiftLeft_toNat {w x n : UInt32} {a b : Nat} (hw : w.toNat = a) (hx : x.toNat = b)
    (hn : n.toNat < 32) (ha : a < 2 ^ n.toNat) (hb : 2 ^ n.toNat * b < 2 ^ 32) :
    (w ||| x <<< n).toNat = a + 2 ^ n.toNat * b := by
  subst hw hx
  calc (w ||| x <<< n).toNat
      = w.toNat ||| x.toNat <<< (n.toNat % 32) % 2 ^ 32 := by
        rw [UInt32.toNat_or, UInt32.toNat_shiftLeft]
    _ = w.toNat ||| 2 ^ n.toNat * x.toNat := by
        rw [Nat.mod_eq_of_lt hn, Nat.shiftLeft_eq, Nat.mul_comm, Nat.mod_eq_of_lt hb]
    _ = w.toNat + 2 ^ n.toNat * x.toNat := by
        rw [Nat.or_comm, ← Nat.two_pow_add_eq_or_of_lt ha, Nat.add_comm]

lemma mask_toNat {width : UInt32} (hw : width.toNat < 32) :
    ((1 <<< width : UInt32) - 1).toNat = 2 ^ width.toNat - 1 := by
  have hpow : 2 ^ width.toNat < 2 ^ 32 := Nat.pow_lt_pow_right (by decide) hw
  have hshift : (1 <<< width : UInt32).toNat = 2 ^ width.toNat := by
    rw [UInt32.toNat_shiftLeft, Nat.mod_eq_of_lt hw, Nat.shiftLeft_eq]
    rw [show UInt32.toNat 1 = 1 from rfl, Nat.one_mul, Nat.mod_eq_of_lt hpow]
  rw [UInt32.toNat_sub_of_le, hshift]
  · rfl
  · rw [UInt32.le_iff_toNat_le, hshift]
    exact Nat.one_le_two_pow

lemma bits_toNat (x : Snapshot) {place width : UInt32} (hp : place.toNat < 32)
    (hw : width.toNat ≤ 8) :
    (x.bits place width).toNat = x.word.toNat / 2 ^ place.toNat % 2 ^ width.toNat := by
  have hfit : x.word.toNat / 2 ^ place.toNat % 2 ^ width.toNat < 2 ^ 8 :=
    Nat.lt_of_lt_of_le (Nat.mod_lt _ (Nat.two_pow_pos _)) (Nat.pow_le_pow_right Nat.two_pos hw)
  calc (x.bits place width).toNat
      = (x.word.toNat >>> (place.toNat % 32) &&& 2 ^ width.toNat - 1) % 2 ^ 8 := by
        rw [bits, UInt32.toNat_toUInt8, UInt32.toNat_and, mask_toNat (by omega),
          UInt32.toNat_shiftRight]
    _ = x.word.toNat / 2 ^ place.toNat % 2 ^ width.toNat % 2 ^ 8 := by
        rw [Nat.mod_eq_of_lt hp, Nat.shiftRight_eq_div_pow, Nat.and_two_pow_sub_one_eq_mod]
    _ = x.word.toNat / 2 ^ place.toNat % 2 ^ width.toNat := Nat.mod_eq_of_lt hfit

lemma bit_toNat (b : Bool) : (bit b).toNat = b.toNat := by cases b <;> rfl

/-- The codes of a state are digits of its snapshot. -/
lemma pack_toNat {s : SystemState} (h : s.Fits) : (pack s).word.toNat =
    s.lock.code.toNat + 2 * s.door.code.toNat + 8 * s.link.code.toNat +
      64 * s.session.code.toNat + 512 * s.setup.toNat + 1024 * s.light.color.code.toNat +
      4096 * s.light.blink.toNat + 65536 * s.attempt.toNat := by
  obtain ⟨hlock, hdoor, hlink, hsession, hsetup, hcolor, hblink, hattempt⟩ := h.digits
  have hdoors := or_shiftLeft_toNat (n := 1) s.lock.code.toNat_toUInt32 s.door.code.toNat_toUInt32
    (by decide) (by simp; omega) (by simp; omega)
  have hlinks := or_shiftLeft_toNat (n := 3) hdoors s.link.code.toNat_toUInt32
    (by decide) (by simp; omega) (by simp; omega)
  have hsessions := or_shiftLeft_toNat (n := 6) hlinks s.session.code.toNat_toUInt32
    (by decide) (by simp; omega) (by simp; omega)
  have hsetups := or_shiftLeft_toNat (n := 9) hsessions (bit_toNat s.setup)
    (by decide) (by simp; omega) (by simp; omega)
  have hcolors := or_shiftLeft_toNat (n := 10) hsetups s.light.color.code.toNat_toUInt32
    (by decide) (by simp; omega) (by simp; omega)
  have hblinks := or_shiftLeft_toNat (n := 12) hcolors (bit_toNat s.light.blink)
    (by decide) (by simp; omega) (by simp; omega)
  exact or_shiftLeft_toNat (n := 16) hblinks s.attempt.toNat_toUInt32
    (by decide) (by simp; omega) (by simp; omega)

/-- A state that fits is shown as it is. -/
lemma pack_shows {s : SystemState} (h : s.Fits) : (pack s).Shows s := by
  obtain ⟨hlock, hdoor, hlink, hsession, hsetup, hcolor, hblink, hattempt⟩ := h.digits
  have hdigit (c : UInt8) (place width : UInt32) (hp : place.toNat < 32) (hw : width.toNat ≤ 8)
      (hc : (pack s).word.toNat / 2 ^ place.toNat % 2 ^ width.toNat = c.toNat) :
      (pack s).bits place width = c :=
    UInt8.toNat_inj.1 ((bits_toNat (pack s) hp hw).trans hc)
  have hflag (b : Bool) (place : UInt32) (hp : place.toNat < 32)
      (hb : (pack s).word.toNat / 2 ^ place.toNat % 2 = b.toNat) :
      ((pack s).bits place 1 != 0) = b := by
    have hbit := hdigit (if b then 1 else 0) place 1 hp (by decide)
    cases b with
    | true => exact congrArg (· != 0) (hbit hb)
    | false => exact congrArg (· != 0) (hbit hb)
  rw [pack_toNat h] at hdigit hflag
  have hlock' := hdigit s.lock.code 0 1 (by decide) (by decide) (by simp; omega)
  have hdoor' := hdigit s.door.code 1 2 (by decide) (by decide) (by simp; omega)
  have hcolor' := hdigit s.light.color.code 10 2 (by decide) (by decide) (by simp; omega)
  constructor
  case lock => exact congrArg LockState.mk hlock'
  case door => exact congrArg DoorState.mk hdoor'
  case link => exact hdigit _ 3 3 (by decide) (by decide) (by simp; omega)
  case session => exact hdigit _ 6 3 (by decide) (by decide) (by simp; omega)
  case setup => exact hflag _ 9 (by decide) (by simp; omega)
  case color => exact congrArg LightColor.mk hcolor'
  case blink => exact hflag _ 12 (by decide) (by simp; omega)
  case attempt => exact hdigit _ 16 8 (by decide) (by decide) (by simp; omega)

end Snapshot

end DoorControl
