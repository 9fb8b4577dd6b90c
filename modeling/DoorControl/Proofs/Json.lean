import Mathlib.Data.List.Forall2
import DoorControl.Config.Value
import DoorControl.Proofs.Words

/-!
JSON texts and the values that they stand for. A text stands for one value at most. What the writer
of documents makes of a tree stands for the values that its parts stand for, and escaping is undone.
-/

namespace DoorControl

open Bytes

namespace Json

/-! ### The grammar -/

/-- What a JSON text may stand for. A number stays as it is written. -/
inductive Value
  | null
  | truth (b : Bool)
  | number (written : Bytes)
  | text (s : Bytes)
  | list (items : List Value)
  | record (members : List (Bytes × Value))

/-- Space, tab, line feed and carriage return. -/
def isGap (b : UInt8) : Bool := b = 32 || b = 9 || b = 10 || b = 13

def Gap (s : Bytes) : Prop := ∀ b ∈ s, isGap b = true

/-- Decimal digits, one at least. -/
structure Digits (s : Bytes) : Prop where
  nonempty : s ≠ []
  digit : ∀ b ∈ s, Numeral.isDigit b = true

/-- Digits that do not start with a zero, or a zero alone. -/
inductive Whole : Bytes → Prop
  | zero : Whole [48]
  | digits {ds : Bytes} (digits : Digits ds) (first : ds.head? ≠ some 48) : Whole ds

inductive Fraction : Bytes → Prop
  | absent : Fraction []
  | point {ds : Bytes} (digits : Digits ds) : Fraction (46 :: ds)

inductive Exponent : Bytes → Prop
  | absent : Exponent []
  | power {e : UInt8} {mark ds : Bytes} (letter : e = 69 ∨ e = 101)
    (sign : mark = [] ∨ mark = [43] ∨ mark = [45]) (digits : Digits ds) : Exponent (e :: mark ++ ds)

inductive Number : Bytes → Prop
  | intro {mark ds f e : Bytes} (sign : mark = [] ∨ mark = [45]) (whole : Whole ds)
    (fraction : Fraction f) (exponent : Exponent e) : Number (mark ++ (ds ++ (f ++ e)))

/-- The bytes that stand for themselves inside a string: all but quotes, backslashes and control
characters. -/
def isPlain (b : UInt8) : Bool := 32 ≤ b && b ≠ 34 && b ≠ 92

/-- The byte that a backslash and a single byte stand for. -/
def short? : UInt8 → Option UInt8
  | 34 => some 34
  | 92 => some 92
  | 47 => some 47
  | 98 => some 8
  | 102 => some 12
  | 110 => some 10
  | 114 => some 13
  | 116 => some 9
  | _ => none

/-- The value of a hexadecimal digit. -/
def hex? (b : UInt8) : Option Nat :=
  if 48 ≤ b && b ≤ 57 then some (b.toNat - 48)
  else if 65 ≤ b && b ≤ 70 then some (b.toNat - 55)
  else if 97 ≤ b && b ≤ 102 then some (b.toNat - 87)
  else none

/-- The value of four hexadecimal digits. -/
def code? (a b c d : UInt8) : Option Nat := do
  return 4096 * (← hex? a) + 256 * (← hex? b) + 16 * (← hex? c) + (← hex? d)

/-- What stands behind a backslash, and the bytes that it is for: those of the character in UTF-8
where its code is given. A code that is too large for four digits is given in two halves. -/
inductive Escaped : Bytes → Bytes → Prop
  | short {e b : UInt8} (short : short? e = some b) : Escaped [e] [b]
  | code {a b c d : UInt8} (x : Char) (code : code? a b c d = some x.toNat) :
    Escaped [117, a, b, c, d] (String.utf8EncodeChar x)
  | pair {a b c d a' b' c' d' : UInt8} (x : Char) (large : 0x10000 ≤ x.toNat)
    (high : code? a b c d = some (0xd800 + (x.toNat - 0x10000) / 0x400))
    (low : code? a' b' c' d' = some (0xdc00 + (x.toNat - 0x10000) % 0x400)) :
    Escaped [117, a, b, c, d, 92, 117, a', b', c', d'] (String.utf8EncodeChar x)

/-- A piece of a string as it is written, and the bytes that it stands for. -/
inductive Piece : Bytes → Bytes → Prop
  | plain {b : UInt8} (plain : isPlain b = true) : Piece [b] [b]
  | escaped {s m : Bytes} (escaped : Escaped s m) : Piece (92 :: s) m

/-- The inside of a string, and the bytes that it stands for. -/
inductive Inside : Bytes → Bytes → Prop
  | nil : Inside [] []
  | cons {u t s m : Bytes} (first : Piece u t) (rest : Inside s m) : Inside (u ++ s) (t ++ m)

/-- The parts of a text: a value, a value with gaps around it, and what stands between brackets and
between braces. -/
inductive Part
  | value (v : Value)
  | padded (v : Value)
  | items (vs : List Value)
  | members (ms : List (Bytes × Value))

/-- How the parts are written. -/
inductive Written : Part → Bytes → Prop
  | null : Written (.value .null) (ascii "null")
  | truth (b : Bool) : Written (.value (.truth b)) (ascii (if b then "true" else "false"))
  | number {s : Bytes} (number : Number s) : Written (.value (.number s)) s
  | text {s m : Bytes} (inside : Inside s m) : Written (.value (.text m)) (34 :: s ++ [34])
  | list {vs : List Value} {s : Bytes} (items : Written (.items vs) s) :
    Written (.value (.list vs)) (91 :: s ++ [93])
  | record {ms : List (Bytes × Value)} {s : Bytes} (members : Written (.members ms) s) :
    Written (.value (.record ms)) (123 :: s ++ [125])
  | padded {v : Value} {g s g' : Bytes} (before : Gap g) (value : Written (.value v) s)
    (after : Gap g') : Written (.padded v) (g ++ (s ++ g'))
  | noItems {s : Bytes} (gap : Gap s) : Written (.items []) s
  | lastItem {v : Value} {s : Bytes} (item : Written (.padded v) s) : Written (.items [v]) s
  | moreItems {v w : Value} {vs : List Value} {s rest : Bytes} (item : Written (.padded v) s)
    (others : Written (.items (w :: vs)) rest) : Written (.items (v :: w :: vs)) (s ++ 44 :: rest)
  | noMembers {s : Bytes} (gap : Gap s) : Written (.members []) s
  | lastMember {k : Bytes} {v : Value} {s t : Bytes} (key : Written (.padded (.text k)) s)
    (value : Written (.padded v) t) : Written (.members [(k, v)]) (s ++ 58 :: t)
  | moreMembers {k : Bytes} {v : Value} {m : Bytes × Value} {ms : List (Bytes × Value)}
    {s t rest : Bytes} (key : Written (.padded (.text k)) s) (value : Written (.padded v) t)
    (others : Written (.members (m :: ms)) rest) :
    Written (.members ((k, v) :: m :: ms)) (s ++ 58 :: t ++ 44 :: rest)

/-! ### One text, one value -/

variable {s s' r r' : Bytes}

lemma run_unique {p : UInt8 → Bool} {g g' : Bytes} (hg : ∀ b ∈ g, p b = true)
    (hg' : ∀ b ∈ g', p b = true) (hr : ∀ b ∈ r.head?, p b = false)
    (hr' : ∀ b ∈ r'.head?, p b = false) (h : g ++ r = g' ++ r') : g = g' ∧ r = r' := by
  have hsame : g = g' := by
    rw [← takeWhile_run hg hr, h, takeWhile_run hg' hr']
  exact ⟨hsame, List.append_cancel_left (hsame ▸ h)⟩

/-! #### Strings -/

lemma toNat_lt (x : Char) : x.toNat < 0x110000 := by
  have hvalid := x.valid
  simp only [UInt32.isValidChar, Nat.isValidChar] at hvalid
  simp only [Char.toNat]
  omega

lemma toNat_ne_high (x y : Char) : x.toNat ≠ 0xd800 + (y.toNat - 0x10000) / 0x400 := by
  have hvalid := x.valid
  have hlt := toNat_lt y
  simp only [UInt32.isValidChar, Nat.isValidChar] at hvalid
  simp only [Char.toNat] at hlt ⊢
  omega

lemma toNat_injective {x y : Char} (h : x.toNat = y.toNat) : x = y :=
  Char.ext (UInt32.toNat_inj.1 h)

lemma Escaped.unique {m m' : Bytes} (h : Escaped s m) (h' : Escaped s' m')
    (hs : s ++ r = s' ++ r') : s = s' ∧ m = m' := by
  have hshort {b : UInt8} : ¬short? 117 = some b := nofun
  have hsame {α : Type} {o : Option α} {x y : α} (hx : o = some x) (hy : o = some y) : x = y :=
    Option.some.inj (hx.symm.trans hy)
  cases h with
  | short hb => cases h' with
    | short hb' =>
      obtain ⟨rfl, -⟩ := List.cons.inj hs
      rw [hsame hb hb']
      exact ⟨rfl, rfl⟩
    | code x' hx' =>
      obtain ⟨rfl, -⟩ := List.cons.inj hs
      exact absurd hb hshort
    | pair x' hlarge' hhigh' hlow' =>
      obtain ⟨rfl, -⟩ := List.cons.inj hs
      exact absurd hb hshort
  | code x hx => cases h' with
    | short hb' =>
      obtain ⟨rfl, -⟩ := List.cons.inj hs
      exact absurd hb' hshort
    | code x' hx' =>
      simp only [List.cons_append, List.cons.injEq, List.nil_append] at hs
      obtain ⟨-, rfl, rfl, rfl, rfl, -⟩ := hs
      rw [toNat_injective (hsame hx hx')]
      exact ⟨rfl, rfl⟩
    | pair x' hlarge' hhigh' hlow' =>
      simp only [List.cons_append, List.cons.injEq, List.nil_append] at hs
      obtain ⟨-, rfl, rfl, rfl, rfl, -⟩ := hs
      exact absurd (hsame hx hhigh') (toNat_ne_high x x')
  | pair x hlarge hhigh hlow => cases h' with
    | short hb' =>
      obtain ⟨rfl, -⟩ := List.cons.inj hs
      exact absurd hb' hshort
    | code x' hx' =>
      simp only [List.cons_append, List.cons.injEq, List.nil_append] at hs
      obtain ⟨-, rfl, rfl, rfl, rfl, -⟩ := hs
      exact absurd (hsame hx' hhigh) (toNat_ne_high x' x)
    | pair x' hlarge' hhigh' hlow' =>
      simp only [List.cons_append, List.cons.injEq, List.nil_append] at hs
      obtain ⟨-, rfl, rfl, rfl, rfl, -, -, rfl, rfl, rfl, rfl, -⟩ := hs
      have hhigh := hsame hhigh hhigh'
      have hlow := hsame hlow hlow'
      have hx : x = x' := toNat_injective (by omega)
      rw [hx]
      exact ⟨rfl, rfl⟩

lemma Piece.unique {m m' : Bytes} (h : Piece s m) (h' : Piece s' m') (hs : s ++ r = s' ++ r') :
    s = s' ∧ m = m' := by
  have hback : ¬isPlain 92 = true := by decide
  cases h with
  | plain hb => cases h' with
    | plain hb' =>
      obtain ⟨rfl, -⟩ := List.cons.inj hs
      exact ⟨rfl, rfl⟩
    | escaped h' =>
      obtain ⟨rfl, -⟩ := List.cons.inj hs
      exact absurd hb hback
  | escaped h => cases h' with
    | plain hb' =>
      obtain ⟨rfl, -⟩ := List.cons.inj hs
      exact absurd hb' hback
    | escaped h' =>
      obtain ⟨rfl, hm⟩ := h.unique h' (List.cons.inj hs).2
      exact ⟨rfl, hm⟩

lemma Piece.start {m : Bytes} (h : Piece s m) : s ≠ [] ∧ ∀ b ∈ s.head?, b ≠ 34 := by
  cases h with
  | plain hb =>
    rename_i b
    refine ⟨List.cons_ne_nil _ _, ?_⟩
    rintro _ ⟨⟩ rfl
    exact absurd hb (by decide)
  | escaped h =>
    refine ⟨List.cons_ne_nil _ _, ?_⟩
    rintro _ ⟨⟩
    decide

/-- The inside of a string ends at the first quote that is not part of a piece. -/
lemma Inside.unique {m m' : Bytes} (h : Inside s m) (h' : Inside s' m')
    (hs : s ++ 34 :: r = s' ++ 34 :: r') : s = s' ∧ m = m' := by
  have hquote {u t x y : Bytes} (hu : Piece u t) : 34 :: x ≠ u ++ y := by
    obtain ⟨hne, hstart⟩ := hu.start
    obtain ⟨b, u, rfl⟩ := List.exists_cons_of_ne_nil hne
    exact fun he => hstart b rfl (List.cons.inj he).1.symm
  induction h generalizing s' m' with
  | nil => cases h' with
    | nil => exact ⟨rfl, rfl⟩
    | cons hu' h' =>
      rw [List.append_assoc] at hs
      exact absurd hs (hquote hu')
  | cons hu h ih => cases h' with
    | nil =>
      rw [List.append_assoc] at hs
      exact absurd hs.symm (hquote hu)
    | cons hu' h' =>
      rw [List.append_assoc, List.append_assoc] at hs
      obtain ⟨rfl, rfl⟩ := hu.unique hu' hs
      obtain ⟨rfl, rfl⟩ := ih h' (List.append_cancel_left hs)
      exact ⟨rfl, rfl⟩

/-! #### Numbers -/

/-- The bytes of numbers. -/
def isNumeric (b : UInt8) : Bool :=
  Numeral.isDigit b || b = 43 || b = 45 || b = 46 || b = 69 || b = 101

lemma Digits.numeric (h : Digits s) : ∀ b ∈ s, isNumeric b = true := by
  intro b hb
  simp [isNumeric, h.digit b hb]

lemma Whole.isDigits (h : Whole s) : Digits s := by
  cases h with
  | zero => exact ⟨List.cons_ne_nil _ _, List.forall_mem_singleton.2 rfl⟩
  | digits h hfirst => exact h

lemma Number.numeric (h : Number s) : ∀ b ∈ s, isNumeric b = true := by
  have hmark {mark : Bytes} (hm : mark = [] ∨ mark = [43] ∨ mark = [45]) :
      ∀ b ∈ mark, isNumeric b = true := by
    rcases hm with rfl | rfl | rfl
    · exact nofun
    · exact List.forall_mem_singleton.2 rfl
    · exact List.forall_mem_singleton.2 rfl
  obtain ⟨hsign, hwhole, hfraction, hexponent⟩ := h
  simp only [List.forall_mem_append]
  refine ⟨hmark (hsign.imp_right .inr), hwhole.isDigits.numeric, ?_, ?_⟩
  · cases hfraction with
    | absent => nofun
    | point hds => exact List.forall_mem_cons.2 ⟨by decide, hds.numeric⟩
  · cases hexponent with
    | absent => nofun
    | power he hm hds =>
      refine List.forall_mem_cons.2 ⟨?_, List.forall_mem_append.2 ⟨hmark hm, hds.numeric⟩⟩
      rcases he with rfl | rfl <;> decide

lemma Number.start (h : Number s) :
    ∃ b rest, s = b :: rest ∧ (b = 45 ∨ Numeral.isDigit b = true) := by
  obtain ⟨hsign, hwhole, -, -⟩ := h
  obtain ⟨hne, hdigit⟩ := hwhole.isDigits
  rcases hsign with rfl | rfl
  · obtain ⟨b, ds, rfl⟩ := List.exists_cons_of_ne_nil hne
    exact ⟨b, _, rfl, .inr (hdigit b List.mem_cons_self)⟩
  · exact ⟨45, _, rfl, .inl rfl⟩

/-! #### Values -/

/-- The kinds of values, which the first byte tells apart. -/
inductive Kind
  | null
  | truth (b : Bool)
  | number
  | text
  | list
  | record

def Value.kind : Value → Kind
  | null => .null
  | truth b => .truth b
  | number _ => .number
  | text _ => .text
  | list _ => .list
  | record _ => .record

/-- The kind of value that a byte starts. -/
def kind? (b : UInt8) : Option Kind :=
  if b = 110 then some .null
  else if b = 116 then some (.truth true)
  else if b = 102 then some (.truth false)
  else if b = 34 then some .text
  else if b = 91 then some .list
  else if b = 123 then some .record
  else if b = 45 || Numeral.isDigit b then some .number
  else none

lemma kind?_number {b : UInt8} (h : b = 45 ∨ Numeral.isDigit b = true) :
    kind? b = some .number := by
  rcases h with rfl | h
  · rfl
  · have hletter {x : UInt8} (hx : Numeral.isDigit x = false) : b ≠ x := by
      rintro rfl
      rw [hx] at h
      cases h
    simp [kind?, h, hletter (x := 110) rfl, hletter (x := 116) rfl, hletter (x := 102) rfl,
      hletter (x := 34) rfl, hletter (x := 91) rfl, hletter (x := 123) rfl]

lemma Written.kind {v : Value} (h : Written (.value v) s) :
    ∃ b rest, s = b :: rest ∧ kind? b = some v.kind := by
  cases h with
  | null => exact ⟨_, _, rfl, rfl⟩
  | truth b => cases b <;> exact ⟨_, _, rfl, rfl⟩
  | number h =>
    obtain ⟨b, rest, rfl, hb⟩ := h.start
    exact ⟨b, rest, rfl, kind?_number hb⟩
  | text h => exact ⟨_, _, rfl, rfl⟩
  | list h => exact ⟨_, _, rfl, rfl⟩
  | record h => exact ⟨_, _, rfl, rfl⟩

/-- The bytes that end a value with the gap behind it. -/
def isStop (b : UInt8) : Bool := b = 44 || b = 58 || b = 93 || b = 125

/-- What may follow a part that is read to its end. -/
def Part.Ends : Part → Bytes → Prop
  | value _, r => ∀ b ∈ r.head?, isNumeric b = false
  | padded _, r => ∀ b ∈ r.head?, isStop b = true
  | items _, r => ∃ rest, r = 93 :: rest
  | members _, r => ∃ rest, r = 125 :: rest

/-- The parts are of one sort. -/
def Part.Alike : Part → Part → Prop
  | value _, value _ | padded _, padded _ | items _, items _ | members _, members _ => True
  | _, _ => False

/-- Where the part is written, no other part of its sort is. -/
def Sole (p : Part) (s : Bytes) : Prop :=
  ∀ q s' r r', Written q s' → p.Alike q → p.Ends r → q.Ends r' → s ++ r = s' ++ r' → p = q ∧ s = s'

/-- The first byte of a value leaves the values of its kind. -/
lemma Sole.value {v : Value} (h : Written (.value v) s)
    (hv : ∀ v' s' r r', Written (.value v') s' → v'.kind = v.kind →
      (∀ b ∈ r.head?, isNumeric b = false) → (∀ b ∈ r'.head?, isNumeric b = false) →
        s ++ r = s' ++ r' → v = v' ∧ s = s') : Sole (.value v) s := by
  intro q s' r r' h' hq hr hr' hs
  cases q with
  | value v' =>
    obtain ⟨b, rest, hb, hkind⟩ := h.kind
    obtain ⟨b', rest', hb', hkind'⟩ := h'.kind
    have hfirst : b = b' := by
      rw [hb, hb'] at hs
      exact (List.cons.inj hs).1
    have hsame : v'.kind = v.kind := Option.some.inj (hkind'.symm.trans (hfirst ▸ hkind))
    obtain ⟨rfl, hss⟩ := hv v' s' r r' h' hsame hr hr' hs
    exact ⟨rfl, hss⟩
  | _ => exact hq.elim

lemma Sole.null : Sole (.value .null) (ascii "null") := by
  refine .value .null fun v' s' r r' h' hkind _ _ _ => ?_
  cases v' with
  | null => cases h'; exact ⟨rfl, rfl⟩
  | _ => cases hkind

lemma Sole.truth (b : Bool) : Sole (.value (.truth b)) (ascii (if b then "true" else "false")) := by
  refine .value (.truth b) fun v' s' r r' h' hkind _ _ _ => ?_
  cases v' with
  | truth b' =>
    obtain rfl := Kind.truth.inj hkind
    cases h'
    exact ⟨rfl, rfl⟩
  | _ => cases hkind

lemma Sole.number (h : Number s) : Sole (.value (.number s)) s := by
  refine .value (.number h) fun v' s' r r' h' hkind hr hr' hs => ?_
  cases v' with
  | number => cases h' with
    | number h' =>
      obtain ⟨rfl, -⟩ := run_unique h.numeric h'.numeric hr hr' hs
      exact ⟨rfl, rfl⟩
  | _ => cases hkind

/-- Between two bytes that enclose it, a part is found again. -/
lemma enclosed {o c : UInt8} (hs : o :: s ++ [c] ++ r = o :: s' ++ [c] ++ r') :
    s ++ c :: r = s' ++ c :: r' := by
  simpa using hs

lemma Sole.text {m : Bytes} (h : Inside s m) : Sole (.value (.text m)) (34 :: s ++ [34]) := by
  refine .value (.text h) fun v' s' r r' h' hkind _ _ hs => ?_
  cases v' with
  | text => cases h' with
    | text h' =>
      obtain ⟨rfl, rfl⟩ := h.unique h' (enclosed hs)
      exact ⟨rfl, rfl⟩
  | _ => cases hkind

lemma Sole.list {vs : List Value} (h : Written (.items vs) s) (ih : Sole (.items vs) s) :
    Sole (.value (.list vs)) (91 :: s ++ [93]) := by
  refine .value (.list h) fun v' s' r r' h' hkind _ _ hs => ?_
  cases v' with
  | list => cases h' with
    | list h' =>
      obtain ⟨hvs, rfl⟩ := ih _ _ _ _ h' trivial ⟨_, rfl⟩ ⟨_, rfl⟩ (enclosed hs)
      rw [Part.items.inj hvs]
      exact ⟨rfl, rfl⟩
  | _ => cases hkind

lemma Sole.record {ms : List (Bytes × Value)} (h : Written (.members ms) s)
    (ih : Sole (.members ms) s) : Sole (.value (.record ms)) (123 :: s ++ [125]) := by
  refine .value (.record h) fun v' s' r r' h' hkind _ _ hs => ?_
  cases v' with
  | record => cases h' with
    | record h' =>
      obtain ⟨hms, rfl⟩ := ih _ _ _ _ h' trivial ⟨_, rfl⟩ ⟨_, rfl⟩ (enclosed hs)
      rw [Part.members.inj hms]
      exact ⟨rfl, rfl⟩
  | _ => cases hkind

/-! #### Lists and records -/

lemma apart_of_gap {b : UInt8} (h : isGap b = true) :
    isNumeric b = false ∧ isStop b = false ∧ kind? b = none := by
  simp only [isGap, Bool.or_eq_true, decide_eq_true_eq] at h
  rcases h with ((rfl | rfl) | rfl) | rfl <;> decide

lemma apart_of_stop {b : UInt8} (h : isStop b = true) :
    isNumeric b = false ∧ isGap b = false ∧ kind? b = none := by
  simp only [isStop, Bool.or_eq_true, decide_eq_true_eq] at h
  rcases h with ((rfl | rfl) | rfl) | rfl <;> decide

lemma Written.no_gap {v : Value} (h : Written (.value v) s) (r : Bytes) :
    ∀ b ∈ (s ++ r).head?, isGap b = false := by
  obtain ⟨b, rest, rfl, hb⟩ := h.kind
  rintro _ ⟨⟩
  cases hgap : isGap b with
  | false => rfl
  | true =>
    rw [(apart_of_gap hgap).2.2] at hb
    cases hb

lemma numeric_gap {g : Bytes} (hg : Gap g) (hr : ∀ b ∈ r.head?, isStop b = true) :
    ∀ b ∈ (g ++ r).head?, isNumeric b = false := by
  cases g with
  | nil => exact fun b hb => (apart_of_stop (hr b hb)).1
  | cons b g =>
    rintro _ ⟨⟩
    exact (apart_of_gap (hg b List.mem_cons_self)).1

lemma Sole.padded {v : Value} {g g' : Bytes} (hg : Gap g) (h : Written (.value v) s) (hg' : Gap g')
    (ih : Sole (.value v) s) : Sole (.padded v) (g ++ (s ++ g')) := by
  intro q s' r r' h' hq hr hr' hs
  cases q with
  | padded v' => cases h' with
    | padded hg₁ h₁ hg₁' =>
      simp only [List.append_assoc] at hs
      obtain ⟨rfl, hrest⟩ := run_unique hg hg₁ (h.no_gap _) (h₁.no_gap _) hs
      obtain ⟨hv, rfl⟩ := ih _ _ _ _ h₁ trivial (numeric_gap hg' hr) (numeric_gap hg₁' hr') hrest
      have hgaps : g' ++ r = _ := List.append_cancel_left hrest
      have hstop {r : Bytes} (hr : ∀ b ∈ r.head?, isStop b = true) :
          ∀ b ∈ r.head?, isGap b = false := fun b hb => (apart_of_stop (hr b hb)).2.1
      obtain ⟨rfl, -⟩ := run_unique hg' hg₁' (hstop hr) (hstop hr') hgaps
      rw [Part.value.inj hv]
      exact ⟨rfl, rfl⟩
  | _ => exact hq.elim

/-- Where a value starts, no gap comes to a stop. -/
lemma Written.padded_ne {v : Value} (h : Written (.padded v) s) {g : Bytes} (hg : Gap g) {c : UInt8}
    (hc : isStop c = true) : s ++ r ≠ g ++ c :: r' := by
  cases h with
  | padded hg' h _ =>
    intro hs
    rw [List.append_assoc, List.append_assoc] at hs
    have hstop : ∀ b ∈ (c :: r').head?, isGap b = false := by
      rintro _ ⟨⟩
      exact (apart_of_stop hc).2.1
    obtain ⟨b, rest, rfl, hb⟩ := h.kind
    obtain ⟨-, hrest⟩ := run_unique hg' hg (h.no_gap _) hstop hs
    obtain ⟨rfl, -⟩ := List.cons.inj hrest
    rw [(apart_of_stop hc).2.2] at hb
    cases hb

/-- Before a stop, a value is found again, and so is the stop. -/
lemma Sole.stop {v v' : Value} (ih : Sole (.padded v) s) (h' : Written (.padded v') s') {c c' : UInt8}
    (hc : isStop c = true) (hc' : isStop c' = true) (hs : s ++ c :: r = s' ++ c' :: r') :
    v = v' ∧ s = s' ∧ c = c' ∧ r = r' := by
  have hends {v : Value} {c : UInt8} {r : Bytes} (hc : isStop c = true) :
      (Part.padded v).Ends (c :: r) := by
    rintro _ ⟨⟩
    exact hc
  obtain ⟨hv, rfl⟩ := ih _ _ _ _ h' trivial (hends hc) (hends hc') hs
  obtain ⟨hcc, hrr⟩ := List.cons.inj (List.append_cancel_left hs)
  exact ⟨Part.padded.inj hv, rfl, hcc, hrr⟩

lemma Sole.items {vs : List Value} (h : ∀ vs' s' r r', Written (.items vs') s' →
    s ++ 93 :: r = s' ++ 93 :: r' → vs = vs' ∧ s = s') : Sole (.items vs) s := by
  rintro q s' _ r' h' hq ⟨r, rfl⟩ hr' hs
  cases q with
  | items vs' =>
    obtain ⟨r', rfl⟩ := hr'
    obtain ⟨rfl, rfl⟩ := h vs' s' r r' h' hs
    exact ⟨rfl, rfl⟩
  | _ => exact hq.elim

lemma Sole.members {ms : List (Bytes × Value)} (h : ∀ ms' s' r r', Written (.members ms') s' →
    s ++ 125 :: r = s' ++ 125 :: r' → ms = ms' ∧ s = s') : Sole (.members ms) s := by
  rintro q s' _ r' h' hq ⟨r, rfl⟩ hr' hs
  cases q with
  | members ms' =>
    obtain ⟨r', rfl⟩ := hr'
    obtain ⟨rfl, rfl⟩ := h ms' s' r r' h' hs
    exact ⟨rfl, rfl⟩
  | _ => exact hq.elim

lemma gap_unique {g g' : Bytes} (hg : Gap g) (hg' : Gap g') {c : UInt8} (hc : isStop c = true)
    (hs : g ++ c :: r = g' ++ c :: r') : g = g' := by
  have hstop {r : Bytes} : ∀ b ∈ (c :: r).head?, isGap b = false := by
    rintro _ ⟨⟩
    exact (apart_of_stop hc).2.1
  exact (run_unique hg hg' hstop hstop hs).1

lemma Sole.noItems (hg : Gap s) : Sole (.items []) s := by
  refine .items fun vs' s' r r' h' hs => ?_
  cases h' with
  | noItems hg' => exact ⟨rfl, gap_unique hg hg' rfl hs⟩
  | lastItem h => exact absurd hs.symm (h.padded_ne hg rfl)
  | moreItems h _ =>
    rw [List.append_assoc] at hs
    exact absurd hs.symm (h.padded_ne hg rfl)

lemma Sole.lastItem {v : Value} (h : Written (.padded v) s) (ih : Sole (.padded v) s) :
    Sole (.items [v]) s := by
  refine .items fun vs' s' r r' h' hs => ?_
  cases h' with
  | noItems hg => exact absurd hs (h.padded_ne hg rfl)
  | lastItem h' =>
    obtain ⟨rfl, rfl, -⟩ := ih.stop h' rfl rfl hs
    exact ⟨rfl, rfl⟩
  | moreItems h' _ =>
    rw [List.append_assoc] at hs
    exact absurd (ih.stop h' rfl rfl hs).2.2.1 (by decide)

lemma Sole.moreItems {v w : Value} {vs : List Value} {rest : Bytes} (h : Written (.padded v) s)
    (ih : Sole (.padded v) s) (ihrest : Sole (.items (w :: vs)) rest) :
    Sole (.items (v :: w :: vs)) (s ++ 44 :: rest) := by
  refine .items fun vs' s' r r' h' hs => ?_
  rw [List.append_assoc] at hs
  cases h' with
  | noItems hg => exact absurd hs (h.padded_ne hg rfl)
  | lastItem h' => exact absurd (ih.stop h' rfl rfl hs).2.2.1 (by decide)
  | moreItems h' hrest' =>
    rw [List.append_assoc] at hs
    obtain ⟨rfl, rfl, -, hs⟩ := ih.stop h' rfl rfl hs
    obtain ⟨hws, rfl⟩ := ihrest _ _ _ _ hrest' trivial ⟨_, rfl⟩ ⟨_, rfl⟩ hs
    rw [Part.items.inj hws]
    exact ⟨rfl, rfl⟩

lemma Sole.noMembers (hg : Gap s) : Sole (.members []) s := by
  refine .members fun ms' s' r r' h' hs => ?_
  cases h' with
  | noMembers hg' => exact ⟨rfl, gap_unique hg hg' rfl hs⟩
  | lastMember h _ =>
    rw [List.append_assoc] at hs
    exact absurd hs.symm (h.padded_ne hg rfl)
  | moreMembers h _ _ =>
    rw [List.append_assoc, List.append_assoc] at hs
    exact absurd hs.symm (h.padded_ne hg rfl)

/-- Before a stop, a member is found again. -/
lemma Sole.member {k k' t t' : Bytes} {v v' : Value} (ihk : Sole (.padded (.text k)) s)
    (ihv : Sole (.padded v) t) (hk' : Written (.padded (.text k')) s')
    (hv' : Written (.padded v') t') {c c' : UInt8} (hc : isStop c = true) (hc' : isStop c' = true)
    (hs : s ++ 58 :: t ++ c :: r = s' ++ 58 :: t' ++ c' :: r') :
    (k, v) = (k', v') ∧ s ++ 58 :: t = s' ++ 58 :: t' ∧ c = c' ∧ r = r' := by
  rw [List.append_assoc, List.append_assoc] at hs
  obtain ⟨hkey, rfl, -, hrest⟩ := ihk.stop hk' rfl rfl hs
  obtain ⟨rfl, rfl, rfl, rfl⟩ := ihv.stop hv' hc hc' hrest
  rw [Value.text.inj hkey]
  exact ⟨rfl, rfl, rfl, rfl⟩

lemma Sole.lastMember {k t : Bytes} {v : Value} (hk : Written (.padded (.text k)) s)
    (ihk : Sole (.padded (.text k)) s) (ihv : Sole (.padded v) t) :
    Sole (.members [(k, v)]) (s ++ 58 :: t) := by
  refine .members fun ms' s' r r' h' hs => ?_
  cases h' with
  | noMembers hg =>
    rw [List.append_assoc] at hs
    exact absurd hs (hk.padded_ne hg rfl)
  | lastMember hk' hv' =>
    obtain ⟨hm, hss, -⟩ := ihk.member ihv hk' hv' rfl rfl hs
    exact ⟨by rw [hm], hss⟩
  | moreMembers hk' hv' _ =>
    rw [List.append_assoc _ (44 :: _)] at hs
    exact absurd (ihk.member ihv hk' hv' rfl rfl hs).2.2.1 (by decide)

lemma Sole.moreMembers {k t rest : Bytes} {v : Value} {m : Bytes × Value}
    {ms : List (Bytes × Value)} (hk : Written (.padded (.text k)) s)
    (ihk : Sole (.padded (.text k)) s) (ihv : Sole (.padded v) t)
    (ihrest : Sole (.members (m :: ms)) rest) :
    Sole (.members ((k, v) :: m :: ms)) (s ++ 58 :: t ++ 44 :: rest) := by
  refine .members fun ms' s' r r' h' hs => ?_
  rw [List.append_assoc _ (44 :: rest)] at hs
  cases h' with
  | noMembers hg =>
    rw [List.append_assoc] at hs
    exact absurd hs (hk.padded_ne hg rfl)
  | lastMember hk' hv' => exact absurd (ihk.member ihv hk' hv' rfl rfl hs).2.2.1 (by decide)
  | moreMembers hk' hv' hrest' =>
    rw [List.append_assoc _ (44 :: _) (125 :: r')] at hs
    obtain ⟨hm, hss, -, hs⟩ := ihk.member ihv hk' hv' rfl rfl hs
    obtain ⟨hms, rfl⟩ := ihrest _ _ _ _ hrest' trivial ⟨_, rfl⟩ ⟨_, rfl⟩ hs
    rw [hm, Part.members.inj hms, hss]
    exact ⟨rfl, rfl⟩

/-- **One text, one value**: what is written is found again where something else follows. -/
lemma Written.sole {p : Part} (h : Written p s) : Sole p s := by
  induction h with
  | null => exact .null
  | truth b => exact .truth b
  | number h => exact .number h
  | text h => exact .text h
  | list h ih => exact .list h ih
  | record h ih => exact .record h ih
  | padded hg h hg' ih => exact .padded hg h hg' ih
  | noItems hg => exact .noItems hg
  | lastItem h ih => exact .lastItem h ih
  | moreItems h _ ih ihrest => exact .moreItems h ih ihrest
  | noMembers hg => exact .noMembers hg
  | lastMember hk _ ihk ihv => exact .lastMember hk ihk ihv
  | moreMembers hk _ _ ihk ihv ihrest => exact .moreMembers hk ihk ihv ihrest

/-- The text is JSON for the value. -/
def Tells (s : Bytes) (v : Value) : Prop := Written (.padded v) s

/-- A text says one value at most. -/
lemma Tells.unique {v v' : Value} (h : Tells s v) (h' : Tells s v') : v = v' :=
  Part.padded.inj (h.sole _ _ [] [] h' trivial nofun nofun rfl).1

/-! ### Writing -/

/-- No byte of the text has to be escaped. -/
def bare (s : Bytes) : Bool := s.all isPlain

lemma bare_append {s t : Bytes} (hs : bare s = true) (ht : bare t = true) : bare (s ++ t) = true := by
  rw [bare, List.all_append, Bool.and_eq_true]
  exact ⟨hs, ht⟩

lemma Inside.bare (h : bare s = true) : Inside s s := by
  induction s with
  | nil => exact .nil
  | cons b s ih =>
    rw [Json.bare, List.all_cons, Bool.and_eq_true] at h
    exact .cons (.plain h.1) (ih h.2)

lemma piece_control {b : UInt8} (hb : b < 32) : Piece (ascii "\\u00" ++ hexPair b) [b] := by
  have hall : ∀ n < 32, let b := UInt8.ofNat n
      code? 48 48 (hexDigit (b >>> 4)) (hexDigit (b &&& 15)) = some (Char.ofNat n).toNat ∧
        String.utf8EncodeChar (Char.ofNat n) = [b] := by decide
  obtain ⟨hcode, hchar⟩ := hall b.toNat hb
  rw [UInt8.ofNat_toNat] at hcode hchar
  rw [← hchar]
  exact .escaped (.code _ hcode)

lemma piece_escapeByte (b : UInt8) : Piece (escapeByte b) [b] := by
  unfold escapeByte
  split_ifs with hquote hback hcontrol
  · subst hquote
    exact .escaped (.short rfl)
  · subst hback
    exact .escaped (.short rfl)
  · exact piece_control hcontrol
  · have hge : 32 ≤ b := UInt8.not_lt.1 hcontrol
    exact .plain (by simp [isPlain, hge, hquote, hback])

/-- **Escaping is undone**, whatever the text. -/
lemma Inside.escape (s : Bytes) : Inside (escape s) s := by
  induction s with
  | nil => exact .nil
  | cons b s ih => exact .cons (piece_escapeByte b) ih

/-- What is written of a tree is a text of the value. -/
def Means (j : Json) (v : Value) : Prop := Written (.value v) j.render

lemma Written.bare {v : Value} (h : Written (.value v) s) : Written (.padded v) s := by
  have hpadded : Written (.padded v) ([] ++ (s ++ [])) := .padded nofun h nofun
  rwa [List.append_nil] at hpadded

lemma Means.tells {j : Json} {v : Value} (h : Means j v) : Tells j.render v := h.bare

lemma means_text {m : Bytes} (h : Inside s m) : Means (text s) (.text m) := by
  unfold Means render
  exact .text h

lemma means_truth (b : Bool) : Means (truth b) (.truth b) := by
  unfold Means render
  cases b
  · exact .truth false
  · exact .truth true

/-- A number is written in digits, and starts with a zero only where it is zero. -/
lemma digits_decimal (n : Nat) : Digits (decimal n) ∧ (0 < n → (decimal n).head? ≠ some 48) := by
  have hdigit : ∀ d < 10, Numeral.isDigit d.digitChar.toNat.toUInt8 = true ∧
      (d.digitChar.toNat.toUInt8 = 48 → d = 0) := by decide
  induction n using Nat.strongRecOn with
  | ind n ih =>
    unfold decimal at ih ⊢
    rw [Nat.toDigits_eq_if (by decide)]
    split_ifs with hlt
    · refine ⟨⟨List.cons_ne_nil _ _, ?_⟩, fun hn hfirst => ?_⟩
      · exact List.forall_mem_singleton.2 (hdigit n hlt).1
      · have := (hdigit n hlt).2 (Option.some.inj hfirst)
        omega
    · obtain ⟨⟨hne, hall⟩, hfirst⟩ := ih (n / 10) (by omega)
      rw [List.map_append]
      refine ⟨⟨List.append_ne_nil_of_left_ne_nil hne _, ?_⟩, fun hn => ?_⟩
      · refine List.forall_mem_append.2 ⟨hall, List.forall_mem_singleton.2 ?_⟩
        exact (hdigit (n % 10) (by omega)).1
      · rw [List.head?_append_of_ne_nil _ hne]
        exact hfirst (by omega)

lemma number_decimal (n : Nat) : Number (decimal n) := by
  have hnumber (h : Whole (decimal n)) : Number ([] ++ (decimal n ++ ([] ++ []))) :=
    .intro (.inl rfl) h .absent .absent
  rw [List.append_nil, List.append_nil] at hnumber
  obtain ⟨hdigits, hfirst⟩ := digits_decimal n
  rcases Nat.eq_zero_or_pos n with rfl | hn
  · exact hnumber .zero
  · exact hnumber (.digits hdigits (hfirst hn))

lemma means_number (n : Nat) : Means (number n) (.number (decimal n)) := by
  unfold Means render
  exact .number (number_decimal n)

lemma written_items {js : List Json} {vs : List Value} (h : List.Forall₂ Means js vs) :
    Written (.items vs) (renderItems js) := by
  induction h with
  | nil => exact .noItems nofun
  | cons h hs ih =>
    cases hs with
    | nil => exact .lastItem h.bare
    | cons h' hs' =>
      have hmore := Written.moreItems h.bare ih
      simpa [renderItems] using hmore

lemma means_list {js : List Json} {vs : List Value} (h : List.Forall₂ Means js vs) :
    Means (list js) (.list vs) := by
  unfold Means render
  exact .list (written_items h)

/-- What is written of a member is a text of the other one. -/
def MemberMeans (j : Bytes × Json) (m : Bytes × Value) : Prop := Inside j.1 m.1 ∧ Means j.2 m.2

lemma written_members {js : List (Bytes × Json)} {ms : List (Bytes × Value)}
    (h : List.Forall₂ MemberMeans js ms) : Written (.members ms) (renderMembers js) := by
  induction h with
  | nil => exact .noMembers nofun
  | cons h hs ih =>
    have hkey := (Written.text h.1).bare
    cases hs with
    | nil =>
      have hlast := Written.lastMember hkey h.2.bare
      simpa [renderMembers, quoted] using hlast
    | cons h' hs' =>
      have hmore := Written.moreMembers hkey h.2.bare ih
      simpa [renderMembers, quoted] using hmore

lemma means_record {js : List (Bytes × Json)} {ms : List (Bytes × Value)}
    (h : List.Forall₂ MemberMeans js ms) : Means (record js) (.record ms) := by
  unfold Means render
  exact .record (written_members h)

/-! #### Documents without escapes -/

mutual

/-- The value of a document, with each text as it is written. -/
def asWritten : Json → Value
  | text s => .text s
  | number n => .number (decimal n)
  | truth b => .truth b
  | list items => .list (itemsAsWritten items)
  | record members => .record (membersAsWritten members)

def itemsAsWritten : List Json → List Value
  | [] => []
  | j :: js => j.asWritten :: itemsAsWritten js

def membersAsWritten : List (Bytes × Json) → List (Bytes × Value)
  | [] => []
  | (k, j) :: js => (k, j.asWritten) :: membersAsWritten js

end

mutual

/-- No text of the document has to be escaped. -/
def plain : Json → Bool
  | text s => bare s
  | number _ | truth _ => true
  | list items => plainItems items
  | record members => plainMembers members

def plainItems : List Json → Bool
  | [] => true
  | j :: js => j.plain && plainItems js

def plainMembers : List (Bytes × Json) → Bool
  | [] => true
  | (k, j) :: js => bare k && j.plain && plainMembers js

end

mutual

/-- Where nothing has to be escaped, a document stands for what is written in it. -/
lemma means_asWritten (j : Json) (h : j.plain = true) : Means j j.asWritten := by
  cases j with
  | text s => exact means_text (.bare h)
  | number n => exact means_number n
  | truth b => exact means_truth b
  | list js => exact means_list (means_items js h)
  | record js => exact means_record (means_members js h)

lemma means_items (js : List Json) (h : plainItems js = true) :
    List.Forall₂ Means js (itemsAsWritten js) := by
  cases js with
  | nil => exact .nil
  | cons j js =>
    simp only [plainItems, Bool.and_eq_true] at h
    exact .cons (means_asWritten j h.1) (means_items js h.2)

lemma means_members (js : List (Bytes × Json)) (h : plainMembers js = true) :
    List.Forall₂ MemberMeans js (membersAsWritten js) := by
  cases js with
  | nil => exact .nil
  | cons m js =>
    simp only [plainMembers, Bool.and_eq_true] at h
    exact .cons ⟨.bare h.1.1, means_asWritten m.2 h.1.2⟩ (means_members js h.2)

end

/-! ### Members -/

/-- The members of a document that is a record. -/
def members : Json → List (Bytes × Json)
  | record members => members
  | _ => []

/-- The member with a key, where there is one only. -/
def Value.member? (v : Value) (k : Bytes) : Option Value :=
  match v with
  | record ms =>
    match ms.filter (·.1 = k) with
    | [m] => some m.2
    | _ => none
  | _ => none

lemma Value.member?_of_mem {ms : List (Bytes × Value)} (hkeys : (ms.map Prod.fst).Nodup) {k : Bytes}
    {v : Value} (hm : (k, v) ∈ ms) : (record ms).member? k = some v := by
  have hfilter : ms.filter (·.1 = k) = [(k, v)] := by
    induction ms with
    | nil => cases hm
    | cons m ms ih =>
      obtain ⟨hfirst, hrest⟩ := List.nodup_cons.1 hkeys
      rcases List.mem_cons.1 hm with rfl | hm
      · have hnone : ms.filter (·.1 = k) = [] := by
          simp only [List.filter_eq_nil_iff, decide_eq_true_eq]
          exact fun m hm hk => hfirst (List.mem_map.2 ⟨m, hm, hk⟩)
        simp [hnone]
      · have hne : m.1 ≠ k := fun hk => hfirst (List.mem_map.2 ⟨(k, v), hm, hk.symm⟩)
        rw [List.filter_cons_of_neg (by simpa using hne), ih hrest hm]
  simp [member?, hfilter]

/-- What the keys lead to. -/
def Value.at? (v : Value) (path : List Bytes) : Option Value := path.foldlM member? v

/-- The text is JSON, for one value only, and in that one the keys lead to `x`. -/
def Has (s : Bytes) (path : List Bytes) (x : Value) : Prop :=
  ∃ v, Tells s v ∧ (∀ v', Tells s v' → v' = v) ∧ v.at? path = some x

lemma Tells.has {v x : Value} (h : Tells s v) {path : List Bytes} (hx : v.at? path = some x) :
    Has s path x := ⟨v, h, fun _ h' => h'.unique h, hx⟩

end Json

end DoorControl
