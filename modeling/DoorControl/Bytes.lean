/-!
Texts as lists of bytes. A text handed to the device ends at its first zero byte, and white space
and letter case are those of ASCII. A text is cut, never moved, to fit the room it is given.
-/

namespace DoorControl

abbrev Bytes := List UInt8

/-- The bytes of an ASCII literal. -/
def ascii (s : String) : Bytes := s.toList.map fun c => c.toNat.toUInt8

namespace Bytes

/-- The part before the first zero byte. -/
def untilNul (s : Bytes) : Bytes := s.takeWhile (· != 0)

theorem zero_not_mem_untilNul (s : Bytes) : 0 ∉ untilNul s := by
  intro h
  simpa using List.all_eq_true.1 (List.all_takeWhile (p := (· != 0)) (l := s)) 0 h

/-- Zeros behind a text that holds none are not read. -/
theorem untilNul_append_zeros {s : Bytes} (h : 0 ∉ s) (n : Nat) :
    untilNul (s ++ List.replicate n 0) = s := by
  induction s with
  | nil => cases n <;> simp [untilNul, List.replicate_succ]
  | cons b s ih =>
    have hb : b ≠ 0 := fun h0 => h (h0 ▸ List.mem_cons_self)
    have := ih fun h0 => h (List.mem_cons_of_mem b h0)
    simp_all [untilNul]

theorem untilNul_eq_self {s : Bytes} (h : 0 ∉ s) : untilNul s = s := by
  simpa using untilNul_append_zeros h 0

theorem length_untilNul_le (s : Bytes) : (untilNul s).length ≤ s.length :=
  (List.takeWhile_sublist _).length_le

/-- Space, tab, line feed, vertical tab, form feed and carriage return. -/
def isBlank (b : UInt8) : Bool := b == 32 || (9 ≤ b && b ≤ 13)

def skipBlanks (s : Bytes) : Bytes := s.dropWhile isBlank

/-- The text without the blanks around it. -/
def trim (s : Bytes) : Bytes := ((skipBlanks s).reverse.dropWhile isBlank).reverse

/-- Changes the letters `A` to `Z` only. -/
def lower (b : UInt8) : UInt8 := if 65 ≤ b && b ≤ 90 then b + 32 else b

/-- The text, less surrounding blanks, is the word in any letter case. -/
def matchesWord (s word : Bytes) : Bool := (trim s).map lower == word.map lower

/-- An absent text matches nothing and nothing matches an absent word. -/
def matchesWord? : Option Bytes → Option Bytes → Bool
  | some s, some word => matchesWord s word
  | _, _ => false

/-- What a buffer of `room` bytes keeps of a text and its closing zero. -/
def clip (room : Nat) (s : Bytes) : Bytes := s.take (room - 1)

/-- A text and its closing zero fit into `room` bytes. -/
def fits (room : Nat) (s : Bytes) : Bool := s.length < room

theorem fits_iff {room : Nat} {s : Bytes} : fits room s = true ↔ s.length < room := by
  simp [fits]

@[simp] theorem length_clip (room : Nat) (s : Bytes) :
    (clip room s).length = min (room - 1) s.length := by
  simp [clip]

@[simp] theorem clip_clip (room : Nat) (s : Bytes) : clip room (clip room s) = clip room s := by
  simp [clip, List.take_take]

theorem mem_of_mem_clip {room : Nat} {s : Bytes} {b : UInt8} (h : b ∈ clip room s) : b ∈ s :=
  List.mem_of_mem_take h

theorem clip_eq_self {room : Nat} {s : Bytes} (h : fits room s) : clip room s = s :=
  List.take_of_length_le (by have := fits_iff.1 h; omega)

/-- A text printed into `room` bytes: whether it fits, and what is kept of it. -/
def printed (room : Nat) (s : Bytes) : Bool × Bytes := (fits room s, clip room s)

/-- A buffer after a text was printed to its start: the text as far as it fits, a zero, and what
stood behind. -/
def printInto (buffer s : Bytes) : Bytes :=
  (clip buffer.length s ++ [0] ++ buffer.drop ((clip buffer.length s).length + 1)).take buffer.length

/-! ### Numbers -/

/-- A number in decimal digits. -/
def decimal (n : Nat) : Bytes := (Nat.toDigits 10 n).map fun c => c.toNat.toUInt8

/-- An integer in decimal digits, with a sign below zero. -/
def signed (n : Int) : Bytes := if n < 0 then 45 :: decimal n.natAbs else decimal n.natAbs

/-- One lower-case hexadecimal digit. -/
def hexDigit (n : UInt8) : UInt8 := if n < 10 then 48 + n else 87 + n

/-- A byte as two hexadecimal digits. -/
def hexPair (b : UInt8) : Bytes := [hexDigit (b >>> 4), hexDigit (b &&& 15)]

end Bytes

end DoorControl
