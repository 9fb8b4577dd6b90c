import Mathlib.Data.Nat.Digits.Lemmas
import Mathlib.Tactic.Common
import DoorControl.Config.Record

/-!
The shift register of the checksum. Shifting is linear in exclusive or and loses nothing, and up to
four bytes go into the register like one word. So no change within four bytes goes unseen, wherever
it is, and a text that ends in its own checksum always leaves the register the same.
-/

namespace DoorControl

namespace Bytes

/-- The two texts differ at the `n` places from `k` on at most. -/
def Burst (k n : Nat) (s s' : Bytes) : Prop := ∀ i, s'[i]? ≠ s[i]? → k ≤ i ∧ i < k + n

/-- What stands before a burst and behind it is the same. -/
lemma Burst.split {k n : Nat} {s s' : Bytes} (h : Burst k n s s') :
    s'.take k = s.take k ∧ s'.drop (k + n) = s.drop (k + n) := by
  have same {i : Nat} (hi : i < k ∨ k + n ≤ i) : s'[i]? = s[i]? := by
    by_contra hne
    have := h i hne
    omega
  constructor
  · refine List.ext_getElem? fun i => ?_
    simp only [List.getElem?_take]
    split
    · exact same (.inl ‹_›)
    · rfl
  · refine List.ext_getElem? fun i => ?_
    simp only [List.getElem?_drop]
    exact same (.inr (Nat.le_add_right _ _))

/-- The number that bytes stand for, the low byte first. -/
def littleEndian (s : Bytes) : Nat := Nat.ofDigits 256 (s.map UInt8.toNat)

lemma littleEndian_cons (b : UInt8) (s : Bytes) :
    littleEndian (b :: s) = b.toNat + 256 * littleEndian s := by
  simp [littleEndian, Nat.ofDigits_cons]

lemma toNat_lt_of_mem_map (s : Bytes) : ∀ d ∈ s.map UInt8.toNat, d < 256 := by
  simp only [List.mem_map]
  rintro _ ⟨b, -, rfl⟩
  exact b.toNat_lt

lemma littleEndian_lt (s : Bytes) : littleEndian s < 256 ^ s.length := by
  have hlt := Nat.ofDigits_lt_base_pow_length (by decide : 1 < 256) (toNat_lt_of_mem_map s)
  simpa [littleEndian] using hlt

lemma littleEndian_injective {s t : Bytes} (hlen : s.length = t.length)
    (h : littleEndian s = littleEndian t) : s = t := by
  have hdigits : s.map UInt8.toNat = t.map UInt8.toNat :=
    Nat.ofDigits_inj_of_len_eq (by decide) (by simpa using hlen) (toNat_lt_of_mem_map s)
      (toNat_lt_of_mem_map t) h
  exact List.map_injective_iff.2 (fun _ _ => UInt8.toNat_inj.1) hdigits

lemma littleEndian_word32 (n : UInt32) : littleEndian (Record.word32 n) = n.toNat := by
  have := n.toNat_lt
  simp only [Record.word32, littleEndian_cons, UInt32.toNat_toUInt8, UInt32.toNat_shiftRight,
    Nat.shiftRight_eq_div_pow]
  simp [littleEndian]
  omega

end Bytes

open Bytes

namespace Checksum

/-! ### Shifting -/

lemma and_one (r : UInt32) : r &&& 1 = 0 ∨ r &&& 1 = 1 := by
  simp only [← UInt32.toNat_inj, UInt32.toNat_and, UInt32.reduceToNat, Nat.and_one_is_mod]
  omega

lemma xor_and_one (a b : UInt32) : (a ^^^ b) &&& 1 = (a &&& 1) ^^^ (b &&& 1) := by
  simp only [← UInt32.toNat_inj, UInt32.toNat_and, UInt32.toNat_xor, Nat.and_xor_distrib_right]

lemma shiftBit_xor (a b : UInt32) : shiftBit (a ^^^ b) = shiftBit a ^^^ shiftBit b := by
  unfold shiftBit
  rw [xor_and_one, UInt32.shiftRight_xor]
  generalize a >>> 1 = x, b >>> 1 = y, (0xEDB88320 : UInt32) = p
  rcases and_one a with ha | ha <;> rcases and_one b with hb | hb <;> rw [ha, hb]
  · rfl
  · exact UInt32.xor_assoc x y p
  · change x ^^^ y ^^^ p = x ^^^ p ^^^ y
    ac_rfl
  · -- the polynomial that is folded in twice is gone again
    change x ^^^ y = x ^^^ p ^^^ (y ^^^ p)
    calc x ^^^ y = x ^^^ y ^^^ (p ^^^ p) := by rw [UInt32.xor_self, UInt32.xor_zero]
      _ = x ^^^ p ^^^ (y ^^^ p) := by ac_rfl

/-- Only zero is shifted to zero: the polynomial has its highest bit set, a shifted register does
not. -/
lemma shiftBit_eq_zero {r : UInt32} (h : shiftBit r = 0) : r = 0 := by
  have hhalf : (r >>> 1).toNat = r.toNat / 2 := by
    simp [UInt32.toNat_shiftRight, Nat.shiftRight_eq_div_pow]
  have hlt := r.toNat_lt
  unfold shiftBit at h
  split at h
  · have hpoly := congrArg UInt32.toNat (UInt32.xor_eq_zero_iff.1 h)
    simp only [hhalf, UInt32.reduceToNat] at hpoly
    omega
  · have hlow := congrArg UInt32.toNat ((and_one r).resolve_right ‹_›)
    have hrest := congrArg UInt32.toNat h
    simp only [UInt32.toNat_and, UInt32.reduceToNat, Nat.and_one_is_mod] at hlow
    simp only [hhalf, UInt32.reduceToNat] at hrest
    refine UInt32.toNat_inj.1 ?_
    simp only [UInt32.reduceToNat]
    omega

lemma shiftBit_double {n : Nat} (h : 2 * n < 2 ^ 32) : shiftBit (.ofNat (2 * n)) = .ofNat n := by
  have hlow : UInt32.ofNat (2 * n) &&& 1 ≠ 1 := by
    simp only [ne_eq, ← UInt32.toNat_inj, UInt32.toNat_and, UInt32.toNat_ofNat', UInt32.reduceToNat,
      Nat.and_one_is_mod]
    omega
  unfold shiftBit
  rw [if_neg hlow, ← UInt32.toNat_inj, UInt32.toNat_shiftRight]
  simp only [UInt32.toNat_ofNat', UInt32.reduceToNat, Nat.reduceMod, Nat.shiftRight_eq_div_pow]
  omega

lemma shiftBits_xor (n : Nat) (a b : UInt32) :
    shiftBits n (a ^^^ b) = shiftBits n a ^^^ shiftBits n b := by
  induction n generalizing a b with
  | zero => rfl
  | succ n ih => simp only [shiftBits, shiftBit_xor, ih]

lemma shiftBits_eq_zero {n : Nat} {r : UInt32} (h : shiftBits n r = 0) : r = 0 := by
  induction n generalizing r with
  | zero => exact h
  | succ n ih => exact shiftBit_eq_zero (ih h)

lemma shiftBits_injective (n : Nat) : Function.Injective (shiftBits n) := by
  intro a b h
  have hdiff : shiftBits n (a ^^^ b) = 0 := by rw [shiftBits_xor, h, UInt32.xor_self]
  exact UInt32.xor_eq_zero_iff.1 (shiftBits_eq_zero hdiff)

lemma shiftBits_add (m n : Nat) (r : UInt32) :
    shiftBits (m + n) r = shiftBits n (shiftBits m r) := by
  induction m generalizing r with
  | zero =>
    rw [Nat.zero_add]
    rfl
  | succ m ih =>
    rw [Nat.succ_add]
    exact ih _

lemma shiftBits_mul (k : Nat) {n : Nat} (h : 2 ^ k * n < 2 ^ 32) :
    shiftBits k (.ofNat (2 ^ k * n)) = .ofNat n := by
  induction k with
  | zero => simp [shiftBits]
  | succ k ih =>
    rw [Nat.pow_succ', Nat.mul_assoc] at h ⊢
    rw [shiftBits, shiftBit_double h, ih (by omega)]

/-! ### Taking bytes in -/

lemma run_append (r : UInt32) (s t : Bytes) : run r (s ++ t) = run (run r s) t :=
  List.foldl_append

lemma step_injective (b : UInt8) : Function.Injective (step · b) := fun _ _ h =>
  (UInt32.xor_left_inj _).1 (shiftBits_injective 8 h)

lemma run_injective (s : Bytes) : Function.Injective (run · s) := by
  induction s with
  | nil => exact fun _ _ h => h
  | cons b s ih => exact fun _ _ h => step_injective b (ih h)

/-- The bits of the first byte do not meet those of the others. -/
lemma ofNat_littleEndian_cons (b : UInt8) (s : Bytes) :
    UInt32.ofNat (littleEndian (b :: s)) = b.toUInt32 ^^^ .ofNat (2 ^ 8 * littleEndian s) := by
  have hb := b.toNat_lt
  have hbits : 2 ^ 8 * littleEndian s + b.toNat = b.toNat ^^^ 2 ^ 8 * littleEndian s := by
    refine Nat.eq_of_testBit_eq fun i => ?_
    rw [Nat.testBit_two_pow_mul_add _ hb, Nat.testBit_xor, Nat.testBit_two_pow_mul]
    by_cases hi : i < 8
    · simp [hi, Nat.not_le.2 hi]
    · have hle : 8 ≤ i := Nat.le_of_not_lt hi
      have hhigh : b.toNat.testBit i = false :=
        Nat.testBit_lt_two_pow (Nat.lt_of_lt_of_le hb (Nat.pow_le_pow_right (by decide) hle))
      simp [hi, hle, hhigh]
  have hbyte : UInt32.ofNat b.toNat = b.toUInt32 := by
    rw [← UInt32.toNat_inj, UInt32.toNat_ofNat', UInt8.toNat_toUInt32]
    omega
  rw [littleEndian_cons, Nat.add_comm, show 256 = 2 ^ 8 from rfl, hbits, UInt32.ofNat_xor, hbyte]

/-- Up to four bytes go in like one word. -/
lemma run_eq_shiftBits (r : UInt32) {s : Bytes} (hs : s.length ≤ 4) :
    run r s = shiftBits (8 * s.length) (r ^^^ .ofNat (littleEndian s)) := by
  induction s generalizing r with
  | nil => simp [run, shiftBits, littleEndian]
  | cons b s ih =>
    have hlen : s.length ≤ 3 := Nat.le_of_succ_le_succ hs
    have hlt : 2 ^ 8 * littleEndian s < 2 ^ 32 := by
      have := littleEndian_lt s
      have := Nat.pow_le_pow_right (n := 256) (by decide) hlen
      omega
    calc run r (b :: s)
        = run (shiftBits 8 (r ^^^ b.toUInt32)) s := rfl
      _ = shiftBits (8 * s.length) (shiftBits 8 (r ^^^ b.toUInt32) ^^^ .ofNat (littleEndian s)) :=
        ih _ (by omega)
      _ = shiftBits (8 * s.length) (shiftBits 8 (r ^^^ .ofNat (littleEndian (b :: s)))) := by
        rw [ofNat_littleEndian_cons, ← UInt32.xor_assoc, shiftBits_xor 8 (r ^^^ _),
          shiftBits_mul 8 hlt]
      _ = shiftBits (8 * (b :: s).length) (r ^^^ .ofNat (littleEndian (b :: s))) := by
        rw [← shiftBits_add, List.length_cons, Nat.mul_succ, Nat.add_comm]

/-- Two texts of up to four bytes take one register to different ones. -/
lemma run_short_injective (r : UInt32) {s s' : Bytes} (hs : s.length ≤ 4)
    (hlen : s'.length = s.length) (h : run r s' = run r s) : s' = s := by
  rw [run_eq_shiftBits r hs, run_eq_shiftBits r (hlen ▸ hs), hlen] at h
  have hword := (UInt32.xor_right_inj _).1 (shiftBits_injective _ h)
  have hlt {t : Bytes} (ht : t.length ≤ 4) : littleEndian t < 2 ^ 32 :=
    Nat.lt_of_lt_of_le (littleEndian_lt t) (Nat.pow_le_pow_right (n := 256) (by decide) ht)
  refine littleEndian_injective hlen ?_
  have hnat := congrArg UInt32.toNat hword
  rwa [UInt32.toNat_ofNat', UInt32.toNat_ofNat', Nat.mod_eq_of_lt (hlt hs),
    Nat.mod_eq_of_lt (hlt (hlen ▸ hs))] at hnat

/-- **Bursts**: a change within four bytes always leaves another register. -/
lemma eq_of_burst {k : Nat} {s s' : Bytes} {r : UInt32} (hlen : s'.length = s.length)
    (hburst : Burst k 4 s s') (h : run r s' = run r s) : s' = s := by
  obtain ⟨hbefore, hbehind⟩ := hburst.split
  have cut (t : Bytes) : t = t.take k ++ ((t.drop k).take 4 ++ t.drop (k + 4)) := by
    rw [← List.drop_drop, List.take_append_drop, List.take_append_drop]
  rw [cut s', cut s, hbefore, hbehind, run_append, run_append, run_append, run_append] at h
  have hwithin : (s'.drop k).take 4 = (s.drop k).take 4 := by
    refine run_short_injective _ (List.length_take_le _ _) ?_ (run_injective _ h)
    rw [List.length_take, List.length_take, List.length_drop, List.length_drop, hlen]
  rw [cut s', cut s, hbefore, hbehind, hwithin]

/-- A text with its own checksum behind it leaves the register the same, whatever the text is. -/
lemma run_checksum (s : Bytes) :
    run 0xFFFFFFFF (s ++ Record.word32 (crc32 s)) = shiftBits 32 0xFFFFFFFF := by
  have hword : UInt32.ofNat (littleEndian (Record.word32 (crc32 s))) = ~~~ run 0xFFFFFFFF s := by
    rw [littleEndian_word32, UInt32.ofNat_toNat, crc32]
  have hones : ∀ r : UInt32, r ^^^ ~~~ r = 0xFFFFFFFF := fun r => by
    rw [UInt32.xor_not, UInt32.xor_self]
    rfl
  rw [run_append, run_eq_shiftBits _ (by rfl), hword, hones]
  rfl

end Checksum

end DoorControl
