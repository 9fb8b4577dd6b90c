import Mathlib.Data.List.Induction
import Mathlib.Data.Nat.Digits.Defs
import DoorControl.Config.Field
import DoorControl.Proofs.Words

/-!
Port numbers from texts. A text is read as a 64-bit word, in which a minus negates, so that besides
the numerals of the ports themselves those that are smaller by 2^64 are taken.
-/

namespace DoorControl

open Bytes

namespace Numeral

/-! ### Numerals -/

/-- The signs that digits may have in front of them, and whether it is a minus. -/
inductive Sign : Bytes → Bool → Prop
  | absent : Sign [] false
  | plus : Sign [43] false
  | minus : Sign [45] true

/-- Decimal digits, one at least. -/
structure Digits (ds : Bytes) : Prop where
  nonempty : ds ≠ []
  digit : ∀ b ∈ ds, isDigit b = true

/-- What digits stand for, the highest first. -/
def value (ds : Bytes) : Nat := Nat.ofDigits 10 (ds.map fun d => d.toNat - 48).reverse

/-- The text is blanks, a sign perhaps and digits to its end, and denotes the integer. -/
inductive Denotes : Bytes → Int → Prop
  | intro {gap mark ds : Bytes} {negative : Bool} (blank : Blank gap) (sign : Sign mark negative)
    (digits : Digits ds) :
    Denotes (gap ++ (mark ++ ds)) (if negative then -value ds else value ds)

lemma ofDigits_eq_value (ds : Bytes) : ofDigits ds = value ds := by
  induction ds using List.reverseRecOn with
  | nil => rfl
  | append_singleton ds d ih =>
    have hlast : ofDigits (ds ++ [d]) = 10 * ofDigits ds + (d.toNat - 48) := by
      simp [ofDigits]
    have hfirst : value (ds ++ [d]) = d.toNat - 48 + 10 * value ds := by
      simp [value, Nat.ofDigits_cons]
    omega

variable {gap mark ds s : Bytes} {negative : Bool} {z z' : Int}

lemma isDigit_apart {b : UInt8} (h : isDigit b = true) : b ≠ 43 ∧ b ≠ 45 ∧ isBlank b = false := by
  refine ⟨?_, ?_, ?_⟩
  · rintro rfl
    exact absurd h (by decide)
  · rintro rfl
    exact absurd h (by decide)
  · unfold isDigit at h
    unfold isBlank
    grind

lemma Digits.eq_cons (h : Digits ds) : ∃ b rest, ds = b :: rest ∧ isDigit b = true := by
  obtain ⟨b, rest, rfl⟩ := List.exists_cons_of_ne_nil h.nonempty
  exact ⟨b, rest, rfl, h.digit b List.mem_cons_self⟩

lemma sign_append (hmark : Sign mark negative) (hds : Digits ds) :
    sign (mark ++ ds) = (negative, ds) := by
  obtain ⟨b, rest, rfl, hb⟩ := hds.eq_cons
  obtain ⟨hplus, hminus, -⟩ := isDigit_apart hb
  cases hmark with
  | absent => simp [sign, hplus, hminus]
  | plus => rfl
  | minus => rfl

lemma sign_split (s : Bytes) : ∃ mark, s = mark ++ (sign s).2 ∧ Sign mark (sign s).1 := by
  unfold sign
  split
  · split_ifs with hminus hplus
    · exact ⟨[45], by rw [hminus]; rfl, .minus⟩
    · exact ⟨[43], by rw [hplus]; rfl, .plus⟩
    · exact ⟨[], rfl, .absent⟩
  · exact ⟨[], rfl, .absent⟩

lemma skipBlanks_append (hgap : Blank gap) (hmark : Sign mark negative) (hds : Digits ds) :
    skipBlanks (gap ++ (mark ++ ds)) = mark ++ ds := by
  refine dropWhile_run hgap ?_
  obtain ⟨b, rest, rfl, hb⟩ := hds.eq_cons
  cases hmark with
  | absent => simpa using (isDigit_apart hb).2.2
  | plus => simp; decide
  | minus => simp; decide

lemma Denotes.unique (h : Denotes s z) (h' : Denotes s z') : z = z' := by
  obtain ⟨hgap, hmark, hds⟩ := h
  rename_i gap mark ds negative
  generalize hs : gap ++ (mark ++ ds) = s at h'
  obtain ⟨hgap', hmark', hds'⟩ := h'
  have hskip := congrArg (fun s => sign (skipBlanks s)) hs
  simp only [skipBlanks_append hgap hmark hds, skipBlanks_append hgap' hmark' hds',
    sign_append hmark hds, sign_append hmark' hds', Prod.mk.injEq] at hskip
  rw [hskip.1, hskip.2]

/-- What is read are the numerals, each as the word that its sign and its digits come to. -/
lemma unsigned?_eq_some_iff {n : Nat} : unsigned? s = some n ↔
    ∃ gap mark ds negative, s = gap ++ (mark ++ ds) ∧ Blank gap ∧ Sign mark negative ∧
      Digits ds ∧ n = word negative (value ds) := by
  simp only [unsigned?, Option.ite_none_right_eq_some, Bool.and_eq_true,
    decide_eq_true_eq, List.all_eq_true, Option.some.injEq, ofDigits_eq_value]
  constructor
  · rintro ⟨⟨hne, hdigit⟩, rfl⟩
    obtain ⟨mark, hs, hmark⟩ := sign_split (skipBlanks s)
    refine ⟨s.takeWhile isBlank, mark, _, _, ?_, blank_takeWhile s, hmark, ⟨hne, hdigit⟩, rfl⟩
    rw [← hs, skipBlanks, List.takeWhile_append_dropWhile]
  · rintro ⟨gap, mark, ds, negative, rfl, hgap, hmark, hds, rfl⟩
    rw [skipBlanks_append hgap hmark hds, sign_append hmark hds]
    exact ⟨⟨hds.nonempty, hds.digit⟩, rfl⟩

/-- A word that is neither zero nor the largest is that of one integer from zero on and of one below
zero. -/
lemma word_eq_iff {n p : Nat} (h0 : 0 < p) (hp : p < 2 ^ 64 - 1) : word negative n = p ↔
    (if negative then -(n : Int) else n) = p ∨
      (if negative then -(n : Int) else n) = p - 2 ^ 64 := by
  have hsize : UInt64.size = 2 ^ 64 := rfl
  unfold word
  cases negative with
  | true =>
    simp only [if_true, hsize]
    split_ifs with hn
    · omega
    · omega
  | false =>
    simp only [Bool.false_eq_true, if_false, hsize]
    split_ifs with hn
    · omega
    · omega

/-- The ports that a text names: those whose numeral it is, up to a multiple of 2^64. -/
def Names (s : Bytes) (p : UInt16) : Prop :=
  p ≠ 0 ∧ ∃ z, Denotes s z ∧ (z = p.toNat ∨ z = p.toNat - 2 ^ 64)

end Numeral

open Numeral

lemma port?_eq_some_iff {s : Bytes} {p : UInt16} : port? s = some p ↔ Names s p := by
  have hp : p.toNat < 2 ^ 16 := p.toNat_lt
  have hzero : p ≠ 0 ↔ 0 < p.toNat := by
    rw [ne_eq, ← UInt16.toNat_inj, UInt16.toNat_zero]
    omega
  have hread : port? s = some p ↔ p ≠ 0 ∧ unsigned? s = some p.toNat := by
    unfold port?
    cases hn : unsigned? s with
    | none => simp
    | some n =>
      simp only [Option.ite_none_left_eq_some, Option.some.injEq, Bool.or_eq_true,
        decide_eq_true_eq]
      constructor
      · rintro ⟨hn, rfl⟩
        have hword : n.toUInt16.toNat = n := UInt16.toNat_ofNat_of_lt' (by
          change n < 65536
          omega)
        exact ⟨hzero.2 (by omega), hword.symm⟩
      · rintro ⟨h0, rfl⟩
        have hpos := hzero.1 h0
        exact ⟨by omega, UInt16.ofNat_toNat⟩
  rw [hread, Names]
  refine and_congr_right fun h0 => ?_
  rw [unsigned?_eq_some_iff]
  constructor
  · rintro ⟨gap, mark, ds, negative, rfl, hgap, hmark, hds, hword⟩
    exact ⟨_, .intro hgap hmark hds, (word_eq_iff (hzero.1 h0) (by omega)).1 hword.symm⟩
  · rintro ⟨_, ⟨hgap, hmark, hds⟩, hz⟩
    refine ⟨_, _, _, _, rfl, hgap, hmark, hds, ?_⟩
    exact ((word_eq_iff (hzero.1 h0) (by omega)).2 hz).symm

/-- An edit of the port answers as the numeral decides, and changes nothing else. -/
lemma edits_port (c : Config) {v : Bytes} (hv : v ≠ []) :
    c.edits [(some (ascii "mqtt_port"), some v)] =
      [((port? v).isSome, { c with mqttPort := (port? v).getD c.mqttPort })] := by
  have hkey : Field.ofKey? (ascii "mqtt_port") = some .mqttPort := by decide
  simp only [Config.edits, Config.editWith?, Config.edit?, hkey, if_neg hv, Config.set?]
  cases port? v with
  | none => rfl
  | some p => rfl

/-- **The port that is set is the one that the text names**: an edit of the port is accepted exactly
if the text is a numeral, behind blanks and a sign perhaps, of an integer from 1 to 65535 or of one
that is smaller by 2^64, and sets that port; otherwise it is refused and changes nothing. So for a
text that is no numeral below 65535 - 2^64, the integer it denotes decides. -/
theorem port_modulo_word (c : Config) {v : Bytes} (hv : v ≠ []) :
    (∀ p : UInt16, c.edits [(some (ascii "mqtt_port"), some v)] =
      [(true, { c with mqttPort := p })] ↔ Names v p) ∧
    (c.edits [(some (ascii "mqtt_port"), some v)] = [(false, c)] ↔ ∀ p, ¬Names v p) ∧
    ((∀ z, Denotes v z → 65535 - 2 ^ 64 < z) → ∀ p, Names v p ↔ p ≠ 0 ∧ Denotes v p.toNat) := by
  rw [edits_port c hv]
  refine ⟨fun p => ?_, ?_, fun habove p => ?_⟩
  · rw [← port?_eq_some_iff]
    cases port? v with
    | none => simp
    | some q => simp
  · simp only [← port?_eq_some_iff]
    cases port? v with
    | none => simp
    | some q => simp
  · have hp : p.toNat < 2 ^ 16 := p.toNat_lt
    refine and_congr_right fun _ => ⟨?_, fun h => ⟨_, h, .inl rfl⟩⟩
    rintro ⟨z, hz, hnamed⟩
    have hlow := habove z hz
    obtain rfl : z = p.toNat := by omega
    exact hz

/-- A numeral below zero sets a port. -/
theorem wrapped_port_taken :
    let v := ascii "-18446744073709551615"
    v ≠ [] ∧ Denotes v (1 - 2 ^ 64) ∧ (∀ p : UInt16, ¬Denotes v p.toNat) ∧
      ({} : Config).edits [(some (ascii "mqtt_port"), some v)] =
        [(true, { ({} : Config) with mqttPort := 1 })] := by
  intro v
  have hne : v ≠ [] := by decide
  have hdigits : Digits (ascii "18446744073709551615") :=
    ⟨by decide, List.all_eq_true.1 (by decide)⟩
  have hvalue : value (ascii "18446744073709551615") = 2 ^ 64 - 1 := by decide +kernel
  have hz : Denotes v (1 - 2 ^ 64) := by
    have h : Denotes v (-value (ascii "18446744073709551615")) :=
      @Denotes.intro [] _ _ true nofun .minus hdigits
    rwa [hvalue] at h
  refine ⟨hne, hz, fun p hp => ?_, ?_⟩
  · have := hz.unique hp
    omega
  · exact ((port_modulo_word {} hne).1 1).2 ⟨by decide, _, hz, .inr rfl⟩

end DoorControl
