import DoorControl.Config.Store
import DoorControl.Config.Submission
import DoorControl.Proofs.Config.Record

/-!
Configurations that differ in their passwords at most, and what is made of them: merged with
submissions that do so too, written and read back, they differ in nothing else. A password counts
only as being there or not.
-/

namespace DoorControl

open Bytes

/-! ### Texts in place of each other -/

namespace Text

variable {w : Nat} {new new' old old' : Text w}

/-- In normal form a text is there if it was there before. -/
lemma present_normal_eq (h : new'.present = new.present) (hp : new.present) (hw : 0 < w) :
    new'.normal.present = new.normal.present := by
  rw [present_normal (h.trans hp) hw, present_normal hp hw]

/-- Whether there is a text after one was laid over another depends on whether each was there. -/
lemma present_over (hnew : new'.present = new.present) (hold : old'.present = old.present)
    (hw : 0 < w) : (new'.over old').present = (new.over old).present := by
  unfold Text.over
  rw [hnew]
  split
  · exact present_normal_eq hnew ‹_› hw
  · exact hold

end Text

/-! ### Configurations and submissions -/

namespace Config

/-- The configuration with other passwords. -/
def keyed (c : Config) (wifiPass mqttPass : Text 64) : Config := { c with wifiPass, mqttPass }

/-- The two configurations differ in their passwords at most, and lack none that the other has. -/
def Akin (c c' : Config) : Prop :=
  ∃ wifiPass mqttPass, c' = c.keyed wifiPass mqttPass ∧
    wifiPass.present = c.wifiPass.present ∧ mqttPass.present = c.mqttPass.present

variable {c c' : Config}

lemma akin_iff : c.Akin c' ↔ c' = c.keyed c'.wifiPass c'.mqttPass ∧
    c'.wifiPass.present = c.wifiPass.present ∧ c'.mqttPass.present = c.mqttPass.present := by
  refine ⟨?_, fun h => ⟨_, _, h⟩⟩
  rintro ⟨_, _, rfl, h⟩
  exact ⟨rfl, h⟩

instance (c c' : Config) : Decidable (c.Akin c') := decidable_of_iff' _ akin_iff

lemma Akin.refl (c : Config) : c.Akin c := ⟨c.wifiPass, c.mqttPass, rfl, rfl, rfl⟩

lemma Akin.complete_eq (h : c.Akin c') : c'.complete = c.complete := by
  obtain ⟨wifiPass, mqttPass, rfl, hwifi, hmqtt⟩ := h
  simp only [complete, keyed, hwifi, hmqtt]

lemma Akin.lockActiveHigh_eq (h : c.Akin c') : c'.lockActiveHigh = c.lockActiveHigh := by
  obtain ⟨_, _, rfl, _⟩ := h
  rfl

lemma Akin.normal (h : c.Akin c') (hc : c.complete) : c.normal.Akin c'.normal := by
  obtain ⟨wifiPass, mqttPass, rfl, hwifi, hmqtt⟩ := h
  simp only [complete, Bool.and_eq_true] at hc
  exact ⟨_, _, rfl, Text.present_normal_eq hwifi hc.1.1.1.1.1.1.2 (by decide),
    Text.present_normal_eq hmqtt hc.1.1.1.1.2 (by decide)⟩

end Config

namespace Submission

/-- The two submissions supply the same, but for the passwords. -/
def Akin (s s' : Submission) : Prop := ∃ values, s' = { s with values } ∧ s.values.Akin values

variable {s s' : Submission}

lemma akin_iff : s.Akin s' ↔ s' = { s with values := s'.values } ∧ s.values.Akin s'.values := by
  refine ⟨?_, fun h => ⟨_, h⟩⟩
  rintro ⟨_, rfl, h⟩
  exact ⟨rfl, h⟩

instance (s s' : Submission) : Decidable (s.Akin s') := decidable_of_iff' _ akin_iff

lemma Akin.refl (s : Submission) : s.Akin s := ⟨s.values, rfl, .refl _⟩

end Submission

lemma Config.Akin.merge {c c' : Config} {s s' : Submission} (h : c.Akin c') (hs : s.Akin s') :
    (c.merge s).Akin (c'.merge s') := by
  obtain ⟨_, _, rfl, hwifi, hmqtt⟩ := h
  obtain ⟨_, rfl, _, _, rfl, hwifi', hmqtt'⟩ := hs
  exact ⟨_, _, rfl, Text.present_over hwifi' hwifi (by decide),
    Text.present_over hmqtt' hmqtt (by decide)⟩

/-! ### What is stored -/

namespace Store

/-- Nothing in both slots, or akin configurations under one sequence number. -/
def Found.Akin : Found → Found → Prop :=
  Option.Rel fun x x' => x.1.Akin x'.1 ∧ x'.2 = x.2

lemma Found.Akin.refl (f : Found) : f.Akin f := by
  cases f with
  | none => exact .none
  | some x => exact .some ⟨.refl _, rfl⟩

variable {a a' b b' : Found}

lemma newest?_akin (ha : a.Akin a') (hb : b.Akin b') :
    Option.Rel (fun x x' => x'.1 = x.1 ∧ x.2.1.Akin x'.2.1 ∧ x'.2.2 = x.2.2)
      (newest? a b) (newest? a' b') := by
  cases ha with
  | none =>
    cases hb with
    | none => exact .none
    | some hb => exact .some ⟨rfl, hb⟩
  | @some x x' ha =>
    cases hb with
    | none => exact .some ⟨rfl, ha⟩
    | @some y y' hb =>
      obtain ⟨c, m⟩ := x
      obtain ⟨c', m'⟩ := x'
      obtain ⟨d, n⟩ := y
      obtain ⟨d', n'⟩ := y'
      obtain ⟨hc, rfl : m' = m⟩ := ha
      obtain ⟨hd, rfl : n' = n⟩ := hb
      simp only [newest?]
      split
      · exact .some ⟨rfl, hd, rfl⟩
      · exact .some ⟨rfl, hc, rfl⟩

lemma next_akin (ha : a.Akin a') (hb : b.Akin b') : next a' b' = next a b := by
  have h := newest?_akin ha hb
  unfold next
  generalize newest? a b = n at h ⊢
  generalize newest? a' b' = n' at h ⊢
  cases h with
  | none => rfl
  | some h =>
    obtain ⟨hslot, -, hseq⟩ := h
    simp only [hslot, hseq]

end Store

namespace Record

/-- The same value, or two records that differ in the passwords at most. -/
def Akin (v v' : Bytes) : Prop :=
  v' = v ∨ ∃ c c' seq, decode? v = some (c, seq) ∧ decode? v' = some (c', seq) ∧ c.Akin c'

variable {v v' : Bytes} {c c' : Config}

lemma Akin.length_eq (h : Akin v v') : v'.length = v.length := by
  obtain rfl | ⟨_, _, _, hv, hv', -⟩ := h
  · rfl
  · rw [length_of_decode? hv, length_of_decode? hv']

lemma Akin.take_size (h : Akin v v') : Akin (v.take size) (v'.take size) := by
  obtain rfl | ⟨c, c', seq, hv, hv', hc⟩ := h
  · exact .inl rfl
  · rw [List.take_of_length_le (Nat.le_of_eq (length_of_decode? hv)),
      List.take_of_length_le (Nat.le_of_eq (length_of_decode? hv'))]
    exact .inr ⟨c, c', seq, hv, hv', hc⟩

lemma Akin.decode? (h : Akin v v') : Store.Found.Akin (decode? v) (decode? v') := by
  obtain rfl | ⟨_, _, _, hv, hv', hc⟩ := h
  · exact .refl _
  · rw [hv, hv']
    exact .some ⟨hc, rfl⟩

lemma akin_encode (h : c.Akin c') (hc : c.complete) (seq : UInt32) :
    Akin (encode c seq) (encode c' seq) :=
  .inr ⟨_, _, seq, decode?_encode_complete hc seq,
    decode?_encode_complete (h.complete_eq.trans hc) seq, h.normal hc⟩

end Record

end DoorControl
