import DoorControl.Bytes

/-!
Texts kept in a fixed number of bytes. Such a text reads as the bytes before its first zero; bytes
behind that zero are kept but not read. A text without a zero fills its whole width.
-/

namespace DoorControl

open Bytes

/-- Exactly `width` bytes. -/
structure Text (width : Nat) where
  bytes : Bytes
  length_bytes : bytes.length = width
deriving DecidableEq

namespace Text

variable {w : Nat}

/-- The first `w` bytes of a list, with zeros for those it lacks. -/
def pad (s : Bytes) : Text w :=
  ⟨(s ++ List.replicate w 0).take w, by simp⟩

/-- The text with the same byte everywhere. -/
def filled (b : UInt8) : Text w := ⟨List.replicate w b, by simp⟩

/-- The empty text, all zeros. -/
def blank : Text w := filled 0

instance : Inhabited (Text w) := ⟨blank⟩

/-- The text that reads as `s`, cut to leave room for a closing zero. -/
def ofBytes (s : Bytes) : Text w := pad (clip w s)

/-- The text that reads as `s`, when `s` and a closing zero fit. -/
def ofBytes? (s : Bytes) : Option (Text w) := if fits w s then some (ofBytes s) else none

/-- What the text reads as. -/
def view (t : Text w) : Bytes := untilNul t.bytes

/-- There is a zero within the width. -/
def terminated (t : Text w) : Bool := t.bytes.contains 0

/-- Terminated and not empty. -/
def present (t : Text w) : Bool := t.terminated && t.view != []

/-- The two texts read the same. -/
def same (a b : Text w) : Bool := a.view == b.view

/-- The text that reads the same within the width and holds zeros behind. -/
def normal (t : Text w) : Text w := ofBytes t.view

/-- Writes a new text over an old one. An absent text only empties it: the bytes behind the first
stay. -/
def assign (t : Text w) : Option Bytes → Text w
  | some s => ofBytes s
  | none => pad (0 :: t.bytes.tail)

/-! ### What texts read as -/

theorem zero_not_mem_view (t : Text w) : 0 ∉ t.view := zero_not_mem_untilNul t.bytes

theorem length_view_le (t : Text w) : t.view.length ≤ w := by
  have := length_untilNul_le t.bytes
  rwa [t.length_bytes] at this

/-- A text is terminated when what it reads as leaves room for a zero. -/
theorem terminated_iff {t : Text w} : t.terminated = true ↔ t.view.length < w := by
  rw [terminated, List.contains_iff_mem, view]
  constructor
  · intro h0
    refine Nat.lt_of_le_of_ne t.length_view_le fun he => zero_not_mem_untilNul t.bytes ?_
    have := (List.takeWhile_sublist (· != (0 : UInt8))).eq_of_length (he.trans t.length_bytes.symm)
    rw [untilNul, this]
    exact h0
  · intro h
    refine Decidable.byContradiction fun h0 => ?_
    rw [untilNul_eq_self h0, t.length_bytes] at h
    exact Nat.lt_irrefl _ h

theorem bytes_ofBytes (s : Bytes) :
    (ofBytes s : Text w).bytes = clip w s ++ List.replicate (w - (clip w s).length) 0 := by
  have : (clip w s).length ≤ w := by rw [length_clip]; omega
  simp only [ofBytes, pad, List.take_append, List.take_replicate, List.take_of_length_le this]
  congr 2
  omega

theorem view_ofBytes {s : Bytes} (h : 0 ∉ s) : (ofBytes s : Text w).view = clip w s := by
  rw [view, bytes_ofBytes]
  exact untilNul_append_zeros (fun h0 => h (mem_of_mem_clip h0)) _

theorem view_normal (t : Text w) : t.normal.view = clip w t.view :=
  view_ofBytes t.zero_not_mem_view

@[simp] theorem normal_normal (t : Text w) : t.normal.normal = t.normal := by
  rw [normal, view_normal, ofBytes, clip_clip]
  rfl

theorem same_iff {a b : Text w} : a.same b = true ↔ a.view = b.view := by
  simp [same]

end Text

end DoorControl
