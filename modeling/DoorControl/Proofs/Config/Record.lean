import Mathlib.Algebra.Group.Nat.Defs
import Mathlib.Tactic.Common
import DoorControl.Config.Record

/-!
What reading makes of a written record: the configuration in normal form and its sequence number,
when that configuration is complete.
-/

namespace DoorControl

open Bytes

/-! ### Texts in normal form -/

namespace Text

variable {w : Nat} {t : Text w}

lemma view_normal_of_terminated (h : t.terminated) : t.normal.view = t.view := by
  rw [view_normal, clip_eq_self (fits_iff.2 (terminated_iff.1 h))]

lemma terminated_normal (t : Text w) (hw : 0 < w) : t.normal.terminated = true := by
  rw [terminated_iff, view_normal, length_clip]
  omega

lemma same_normal (h : t.terminated) : t.normal.same t = true :=
  same_iff.2 (view_normal_of_terminated h)

lemma present_normal (h : t.present) (hw : 0 < w) : t.normal.present = true := by
  simp only [present, Bool.and_eq_true, bne_iff_ne] at h ⊢
  exact ⟨t.terminated_normal hw, by rw [view_normal_of_terminated h.1]; exact h.2⟩

end Text

namespace Config

variable {c : Config}

lemma complete_normal (h : c.complete) : c.normal.complete = true := by
  simp only [complete, Bool.and_eq_true] at h
  obtain ⟨⟨⟨⟨⟨⟨⟨ssid, pass⟩, host⟩, brokerPass⟩, -⟩, id⟩, name⟩, port⟩ := h
  simp only [complete, normal, Bool.and_eq_true]
  exact ⟨⟨⟨⟨⟨⟨⟨Text.present_normal ssid (by decide), Text.present_normal pass (by decide)⟩,
    Text.present_normal host (by decide)⟩, Text.present_normal brokerPass (by decide)⟩,
    Text.terminated_normal _ (by decide)⟩, Text.present_normal id (by decide)⟩,
    Text.present_normal name (by decide)⟩, port⟩

lemma same_normal (h : c.complete) : c.normal.same c = true := by
  simp only [complete, Text.present, Bool.and_eq_true] at h
  obtain ⟨⟨⟨⟨⟨⟨⟨ssid, pass⟩, host⟩, brokerPass⟩, user⟩, id⟩, name⟩, -⟩ := h
  simp [same, normal, Text.same_normal ssid.1, Text.same_normal pass.1, Text.same_normal host.1,
    Text.same_normal brokerPass.1, Text.same_normal user, Text.same_normal id.1,
    Text.same_normal name.1]

end Config

namespace Record

/-! ### Numbers from their bytes -/

lemma or_shiftLeft {a p : Nat} (h : a < 2 ^ p) (b : Nat) : a ||| b <<< p = a + b * 2 ^ p := by
  rw [Nat.or_comm, ← Nat.shiftLeft_add_eq_or_of_lt h, Nat.shiftLeft_eq, Nat.add_comm]

lemma or_bytes16 (n : UInt16) :
    n.toUInt8.toUInt16 ||| (n >>> 8).toUInt8.toUInt16 <<< 8 = n := by
  have hn : n.toNat < 65536 := n.toNat_lt
  have h8 : (n.toNat >>> 8 % 256) <<< 8 < 65536 := by rw [Nat.shiftLeft_eq]; omega
  refine UInt16.toNat_inj.1 ?_
  simp only [UInt16.toNat_or, UInt16.toNat_shiftLeft, UInt16.toNat_shiftRight,
    UInt8.toNat_toUInt16, UInt16.toNat_toUInt8, UInt16.toNat_ofNat, Nat.reducePow, Nat.reduceMod]
  rw [Nat.mod_eq_of_lt h8, or_shiftLeft (p := 8) (by omega), Nat.shiftRight_eq_div_pow]
  omega

lemma or_bytes32 (n : UInt32) :
    n.toUInt8.toUInt32 ||| (n >>> 8).toUInt8.toUInt32 <<< 8 |||
      (n >>> 16).toUInt8.toUInt32 <<< 16 ||| (n >>> 24).toUInt8.toUInt32 <<< 24 = n := by
  have hn : n.toNat < 4294967296 := n.toNat_lt
  have h8 : (n.toNat >>> 8 % 256) <<< 8 < 4294967296 := by rw [Nat.shiftLeft_eq]; omega
  have h16 : (n.toNat >>> 16 % 256) <<< 16 < 4294967296 := by rw [Nat.shiftLeft_eq]; omega
  have h24 : (n.toNat >>> 24 % 256) <<< 24 < 4294967296 := by rw [Nat.shiftLeft_eq]; omega
  refine UInt32.toNat_inj.1 ?_
  simp only [UInt32.toNat_or, UInt32.toNat_shiftLeft, UInt32.toNat_shiftRight,
    UInt8.toNat_toUInt32, UInt32.toNat_toUInt8, UInt32.toNat_ofNat, Nat.reducePow, Nat.reduceMod]
  rw [Nat.mod_eq_of_lt h8, Nat.mod_eq_of_lt h16, Nat.mod_eq_of_lt h24,
    or_shiftLeft (p := 8) (by omega), or_shiftLeft (p := 16) (by omega),
    or_shiftLeft (p := 24) (by omega)]
  simp only [Nat.shiftRight_eq_div_pow]
  omega

/-! ### Each reader undoes its writer -/

variable (s : Bytes)

lemma readWord16_append (n : UInt16) : readWord16 (word16 n ++ s) = some (n, s) := by
  simp only [word16, List.cons_append, List.nil_append, readWord16, or_bytes16]

lemma readWord32_append (n : UInt32) : readWord32 (word32 n ++ s) = some (n, s) := by
  simp only [word32, List.cons_append, List.nil_append, readWord32, or_bytes32]

lemma readFlag_append (b : Bool) : readFlag (flag b ++ s) = some (b, s) := by
  cases b <;> rfl

lemma readText_append {w : Nat} {t : Text w} (h : t.terminated) :
    readText w (t.bytes ++ s) = some (t, s) := by
  have htake : (t.bytes ++ s).take w = t.bytes := by
    rw [List.take_left' t.length_bytes]
  have hdrop : (t.bytes ++ s).drop w = s := by
    rw [List.drop_left' t.length_bytes]
  unfold readText
  simp only [htake, hdrop, t.length_bytes]
  exact if_pos h

lemma bind_some {α β : Type} {r : Reader α} {f : α → Reader β} {s rest : Bytes} {a : α}
    (h : r s = some (a, rest)) : (r >>= f) s = f a rest := by
  simp only [bind, StateT.bind, h, Option.bind_some]

lemma guard_bind {α : Type} {b : Prop} [Decidable b] (h : b) (f : Unit → Reader α) :
    (guard b >>= f) = f () := by
  rw [guard, if_pos h, pure_bind]

lemma readHeader_append (seq : UInt32) : readHeader (header seq ++ s) = some (seq, s) := by
  simp only [header, List.append_assoc]
  unfold readHeader
  rw [bind_some (readWord32_append _ _), guard_bind rfl, bind_some (readWord16_append _ _),
    guard_bind rfl, bind_some (readWord16_append _ _), guard_bind rfl, readWord32_append]

lemma readPayload_append (c : Config) : readPayload (payload c ++ s) = some (c.normal, s) := by
  have text {w : Nat} (hw : 0 < w) (t : Text w) (s : Bytes) :
      readText w (t.normal.bytes ++ s) = some (t.normal, s) :=
    readText_append s (t.terminated_normal hw)
  have hs : 0 < 64 := by decide
  simp only [readPayload, payload, List.append_assoc]
  rw [bind_some (text hs _ _), bind_some (text hs _ _), bind_some (text hs _ _),
    bind_some (readWord16_append _ _), bind_some (text hs _ _), bind_some (text hs _ _),
    bind_some (readFlag_append _ _), bind_some (readFlag_append _ _),
    bind_some (text (by decide) _ _), bind_some (text hs _ _)]
  rfl

/-! ### Records -/

lemma length_word32 (n : UInt32) : (word32 n).length = 4 := rfl

lemma length_body (c : Config) (seq : UInt32) : (body c seq).length = bodySize := by
  simp [body, header, payload, word32, word16, flag, Text.length_bytes, bodySize, headerSize,
    payloadSize]

lemma length_encode (c : Config) (seq : UInt32) : (encode c seq).length = size := by
  rw [encode, List.length_append, length_body, length_word32, size]

/-- **Round trip**: a record decodes to its configuration in normal form, if that is complete. -/
theorem decode?_encode (c : Config) (seq : UInt32) :
    decode? (encode c seq) = if c.normal.complete then some (c.normal, seq) else none := by
  have htake : (encode c seq).take bodySize = body c seq := by
    rw [encode, List.take_left' (length_body c seq)]
  have hdrop : (encode c seq).drop bodySize = word32 (crc32 (body c seq)) := by
    rw [encode, List.drop_left' (length_body c seq)]
  have hread : readHeader (encode c seq) =
      some (seq, payload c ++ word32 (crc32 (body c seq))) := by
    rw [encode, body, List.append_assoc, readHeader_append]
  unfold decode? guard
  rw [htake, hdrop, hread, length_encode]
  simp only [↓reduceIte, Option.pure_def, Option.bind_eq_bind, Option.bind_some, readPayload_append]
  split <;> rfl

/-- A complete configuration is read back from its record in normal form. -/
lemma decode?_encode_complete {c : Config} (h : c.complete) (seq : UInt32) :
    decode? (encode c seq) = some (c.normal, seq) := by
  rw [decode?_encode, if_pos (Config.complete_normal h)]

/-- Only a text of a record's size decodes. -/
lemma decode?_eq_none {s : Bytes} (h : s.length ≠ size) : decode? s = none := by
  rw [decode?, guard, if_neg h]
  rfl

lemma length_of_decode? {s : Bytes} {r : Config × UInt32} (h : decode? s = some r) :
    s.length = size := by
  by_contra hs
  exact Option.some_ne_none r (h.symm.trans (decode?_eq_none hs))

end Record

end DoorControl
