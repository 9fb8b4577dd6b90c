import DoorControl.Console.Fields
import DoorControl.Proofs.Words

/-!
The grammar of configuration fields, and what reading makes of a text: it goes from field to field
as far as they follow the grammar and are accepted, and accepts the text when it gets to its end
that way. Fields that are written one after another are read back.
-/

namespace DoorControl

open Bytes

namespace Fields

/-! ### The grammar -/

/-- A key as it may be written. -/
structure Key (k : Bytes) : Prop where
  length : k.length ≤ 23
  plain : ∀ b ∈ k, b ≠ 61 ∧ isBlank b = false

/-- The ways to write a value where `rest` follows: between double quotes, or as it is when it does
not start with one, up to the next blank or the end. -/
inductive Written (v : Bytes) : Bytes → Bytes → Prop
  | quoted (rest : Bytes) (length : v.length ≤ 63) (inside : 34 ∉ v) :
    Written v (34 :: v ++ [34]) rest
  | plain (rest : Bytes) (length : v.length ≤ 63) (start : v.head? ≠ some 34)
    (inside : ∀ b ∈ v, isBlank b = false) (stop : ∀ b ∈ rest.head?, isBlank b = true) :
    Written v v rest

/-- A field stands at the start of `s`, behind blanks perhaps, and `rest` comes behind it. -/
def Stands (f : Bytes × Bytes) (s rest : Bytes) : Prop :=
  ∃ before text, s = before ++ (f.1 ++ 61 :: text ++ rest) ∧ Blank before ∧ Key f.1 ∧
    Written f.2 text rest

/-- The fields stand one after another, and `rest` comes behind them. -/
inductive Row : List (Bytes × Bytes) → Bytes → Bytes → Prop
  | nil (s : Bytes) : Row [] s s
  | cons {f : Bytes × Bytes} {fs : List (Bytes × Bytes)} {s t rest : Bytes}
    (first : Stands f s t) (others : Row fs t rest) : Row (f :: fs) s rest

/-- The submission after the edits that the fields ask for, when all of them are accepted. -/
def applied (sub : Submission) (fs : List (Bytes × Bytes)) : Option Submission :=
  fs.foldlM (fun s f => s.edit? f.1 f.2) sub

/-- No field stands at the start of `s` that the submission accepts. -/
def Stuck (sub : Submission) (s : Bytes) : Prop :=
  ∀ f rest, Stands f s rest → sub.edit? f.1 f.2 = none

/-! ### Reading one field -/

variable {s rest k v : Bytes}

lemma isKeyByte_iff {b : UInt8} : isKeyByte b = true ↔ b ≠ 61 ∧ isBlank b = false := by
  simp [isKeyByte]

lemma readKey_eq_ok_iff : readKey s = .ok (k, rest) ↔ Key k ∧ s = k ++ 61 :: rest := by
  constructor
  · intro h
    simp only [readKey] at h
    split at h
    · cases h
    rename_i hlen
    split at h
    · rename_i rest' heq
      cases h
      refine ⟨⟨Nat.le_of_not_lt hlen, fun b hb => isKeyByte_iff.1 (List.mem_takeWhile_imp hb)⟩, ?_⟩
      rw [← heq, List.takeWhile_append_dropWhile]
    · cases h
  · rintro ⟨hk, rfl⟩
    have hrun : ∀ b ∈ k, isKeyByte b = true := fun b hb => isKeyByte_iff.2 (hk.plain b hb)
    have hstop : ∀ b ∈ (61 :: rest).head?, isKeyByte b = false := by
      rintro _ ⟨⟩
      rfl
    simp only [readKey, takeWhile_run hrun hstop, dropWhile_run hrun hstop]
    exact if_neg (Nat.not_lt.2 hk.length)

lemma readValue_quoted_iff {key : Bytes} :
    readValue key (34 :: s) = .ok (v, rest) ↔ v.length ≤ 63 ∧ 34 ∉ v ∧ s = v ++ 34 :: rest := by
  constructor
  · intro h
    simp only [readValue] at h
    split at h
    · cases h
    rename_i hlen
    split at h
    · rename_i b rest' heq
      cases h
      have hb : b = 34 := by
        have hstop := head?_dropWhile isQuotedByte s
        rw [heq] at hstop
        simpa [isQuotedByte] using hstop b rfl
      refine ⟨Nat.le_of_not_lt hlen, fun hmem => ?_, ?_⟩
      · simpa [isQuotedByte] using List.mem_takeWhile_imp hmem
      · rw [← hb, ← heq, List.takeWhile_append_dropWhile]
    · cases h
  · rintro ⟨hlen, hv, rfl⟩
    have hrun : ∀ b ∈ v, isQuotedByte b = true := by
      intro b hb
      simpa [isQuotedByte] using fun h34 : b = 34 => hv (h34 ▸ hb)
    have hstop : ∀ b ∈ (34 :: rest).head?, isQuotedByte b = false := by
      rintro _ ⟨⟩
      rfl
    simp only [readValue, takeWhile_run hrun hstop, dropWhile_run hrun hstop]
    exact if_neg (Nat.not_lt.2 hlen)

lemma readValue_plain_iff {key : Bytes} (hs : s.head? ≠ some 34) :
    readValue key s = .ok (v, rest) ↔ v.length ≤ 63 ∧ (∀ b ∈ v, isBlank b = false) ∧
      (∀ b ∈ rest.head?, isBlank b = true) ∧ s = v ++ rest := by
  have heq : readValue key s = if maxValue < (s.takeWhile isPlainByte).length then
      .error (.valueTooLong key) else .ok (s.takeWhile isPlainByte, s.dropWhile isPlainByte) := by
    unfold readValue
    split
    · exact absurd rfl hs
    · rfl
  have hplain (b : UInt8) : isPlainByte b = true ↔ isBlank b = false := by simp [isPlainByte]
  have hnot (b : UInt8) : isPlainByte b = false ↔ isBlank b = true := by simp [isPlainByte]
  rw [heq]
  constructor
  · intro h
    split at h
    · cases h
    rename_i hlen
    cases h
    refine ⟨Nat.le_of_not_lt hlen, fun b hb => (hplain b).1 (List.mem_takeWhile_imp hb), ?_,
      List.takeWhile_append_dropWhile.symm⟩
    exact fun b hb => (hnot b).1 (head?_dropWhile isPlainByte s b hb)
  · rintro ⟨hlen, hv, hrest, rfl⟩
    have hrun : ∀ b ∈ v, isPlainByte b = true := fun b hb => (hplain b).2 (hv b hb)
    have hstop : ∀ b ∈ rest.head?, isPlainByte b = false := fun b hb => (hnot b).2 (hrest b hb)
    rw [takeWhile_run hrun hstop, dropWhile_run hrun hstop]
    exact if_neg (Nat.not_lt.2 hlen)

/-- A value is read as far as it is written, in quotes or without. -/
lemma readValue_eq_ok_iff {key : Bytes} :
    readValue key s = .ok (v, rest) ↔ ∃ text, s = text ++ rest ∧ Written v text rest := by
  by_cases hs : s.head? = some 34
  · obtain ⟨s, rfl⟩ := List.head?_eq_some_iff.1 hs
    rw [readValue_quoted_iff]
    constructor
    · rintro ⟨hlen, hv, rfl⟩
      exact ⟨34 :: v ++ [34], by simp, .quoted rest hlen hv⟩
    · rintro ⟨text, htext, ⟨_, hlen, hv⟩ | ⟨_, hlen, hstart, hv, hstop⟩⟩
      · exact ⟨hlen, hv, by simpa using htext⟩
      · cases v with
        | nil =>
          -- A quote is no blank, so nothing plain ends before it.
          rw [List.nil_append] at htext
          have h34 := hstop 34 (by rw [← htext]; rfl)
          exact absurd h34 (by decide)
        | cons b v =>
          rw [List.cons_append] at htext
          exact absurd (congrArg some (List.cons.inj htext).1.symm) hstart
  · rw [readValue_plain_iff hs]
    constructor
    · rintro ⟨hlen, hv, hstop, rfl⟩
      refine ⟨v, rfl, .plain rest hlen (fun hstart => hs ?_) hv hstop⟩
      obtain ⟨v, rfl⟩ := List.head?_eq_some_iff.1 hstart
      rfl
    · rintro ⟨text, rfl, ⟨_, hlen, hv⟩ | ⟨_, hlen, hstart, hv, hstop⟩⟩
      · exact absurd rfl hs
      · exact ⟨hlen, hv, hstop, rfl⟩

lemma bind_eq_ok_iff {α β : Type} {x : Except FieldError α} {f : α → Except FieldError β} {b : β} :
    x >>= f = .ok b ↔ ∃ a, x = .ok a ∧ f a = .ok b := by
  cases x with
  | error e => exact iff_of_false nofun fun ⟨_, h, _⟩ => nomatch h
  | ok a => exact ⟨fun h => ⟨a, rfl, h⟩, fun ⟨_, ha, h⟩ => Except.ok.inj ha ▸ h⟩

lemma readField_eq_ok_iff : readField s = .ok (k, v, rest) ↔
    Key k ∧ ∃ text, s = k ++ 61 :: text ++ rest ∧ Written v text rest := by
  unfold readField
  constructor
  · intro h
    obtain ⟨⟨k', t⟩, hkey, h⟩ := bind_eq_ok_iff.1 h
    obtain ⟨⟨v', rest'⟩, hvalue, h⟩ := bind_eq_ok_iff.1 h
    cases h
    obtain ⟨hk, rfl⟩ := readKey_eq_ok_iff.1 hkey
    obtain ⟨text, rfl, hv⟩ := readValue_eq_ok_iff.1 hvalue
    exact ⟨hk, text, by simp, hv⟩
  · rintro ⟨hk, text, rfl, hv⟩
    have hkey : readKey (k ++ 61 :: text ++ rest) = .ok (k, text ++ rest) :=
      readKey_eq_ok_iff.2 ⟨hk, by simp⟩
    have hvalue : readValue k (text ++ rest) = .ok (v, rest) :=
      readValue_eq_ok_iff.2 ⟨text, rfl, hv⟩
    exact bind_eq_ok_iff.2 ⟨_, hkey, bind_eq_ok_iff.2 ⟨_, hvalue, rfl⟩⟩

/-- **One field**: what stands at the start of a text is what is read behind the blanks. -/
lemma stands_iff {f : Bytes × Bytes} :
    Stands f s rest ↔ readField (skipBlanks s) = .ok (f.1, f.2, rest) := by
  rw [readField_eq_ok_iff]
  constructor
  · rintro ⟨before, text, rfl, hbefore, hk, hv⟩
    refine ⟨hk, text, dropWhile_run hbefore fun b hb => ?_, hv⟩
    -- Neither a key byte nor the equals sign is a blank.
    cases hkey : f.1 with
    | nil =>
      rw [hkey] at hb
      cases hb
      rfl
    | cons a k =>
      rw [hkey] at hb
      cases hb
      exact (hk.plain _ (by rw [hkey]; exact List.mem_cons_self)).2
  · rintro ⟨hk, text, hs, hv⟩
    refine ⟨s.takeWhile isBlank, text, ?_, blank_takeWhile s, hk, hv⟩
    rw [← hs, skipBlanks, List.takeWhile_append_dropWhile]

variable {f f' : Bytes × Bytes} {fs fs' : List (Bytes × Bytes)} {t rest' : Bytes}
  {sub x x' : Submission}

lemma Stands.unique (h : Stands f s rest) (h' : Stands f' s rest') : f = f' ∧ rest = rest' := by
  have heq := (stands_iff.1 h).symm.trans (stands_iff.1 h')
  simp only [Except.ok.injEq, Prod.mk.injEq] at heq
  exact ⟨Prod.ext heq.1 heq.2.1, heq.2.2⟩

lemma Stands.length_lt (h : Stands f s rest) : rest.length < (skipBlanks s).length := by
  obtain ⟨-, text, hs, -⟩ := readField_eq_ok_iff.1 (stands_iff.1 h)
  rw [hs]
  simp only [List.length_append, List.length_cons]
  omega

lemma stuck_of_blank (h : Blank s) : Stuck sub s := by
  intro f rest hf
  have hlt := hf.length_lt
  rw [skipBlanks_eq_nil_iff.2 h] at hlt
  exact absurd hlt (Nat.not_lt_zero _)

/-! ### Reading many fields -/

lemma applied_cons : applied sub (f :: fs) = (sub.edit? f.1 f.2).bind fun s => applied s fs := rfl

/-- Fields that are accepted up to where no more are lead to one place only. -/
lemma Row.unique (h : Row fs s rest) (hx : applied sub fs = some x) (hstuck : Stuck x rest)
    (h' : Row fs' s rest') (hx' : applied sub fs' = some x') (hstuck' : Stuck x' rest') :
    fs = fs' ∧ rest = rest' ∧ x = x' := by
  -- Where one row goes on with a field that is accepted, the other one cannot be stuck.
  induction h generalizing sub fs' with
  | nil s =>
    cases h' with
    | nil => exact ⟨rfl, rfl, Option.some.inj (hx.symm.trans hx')⟩
    | cons hfirst _ =>
      cases hx
      rw [applied_cons, hstuck _ _ hfirst] at hx'
      cases hx'
  | cons hfirst _ ih =>
    rw [applied_cons] at hx
    obtain ⟨next, hnext, hx⟩ := Option.bind_eq_some_iff.1 hx
    cases h' with
    | nil =>
      cases hx'
      rw [hstuck' _ _ hfirst] at hnext
      cases hnext
    | cons hfirst' hothers' =>
      obtain ⟨rfl, rfl⟩ := hfirst.unique hfirst'
      rw [applied_cons, hnext] at hx'
      obtain ⟨rfl, rfl, rfl⟩ := ih hx hstuck hothers' hx'
      exact ⟨rfl, rfl, rfl⟩

/-- **All the fields**: reading goes from field to field as long as one stands there that is
accepted, and ends well when nothing but blanks is left. -/
lemma readUpTo_row (n : Nat) (sub : Submission) (s : Bytes) (hn : (skipBlanks s).length ≤ n) :
    ∃ fs rest, Row fs s rest ∧ applied sub fs = some (readUpTo n sub (skipBlanks s)).2 ∧
      Stuck (readUpTo n sub (skipBlanks s)).2 rest ∧
      ((readUpTo n sub (skipBlanks s)).1 = none ↔ Blank rest) := by
  -- The count does not run out before the text does, as each field takes a byte at least.
  induction n generalizing sub s with
  | zero =>
    have hs : skipBlanks s = [] := List.length_eq_zero_iff.1 (Nat.le_zero.1 hn)
    have hblank := skipBlanks_eq_nil_iff.1 hs
    rw [hs]
    exact ⟨[], s, .nil s, rfl, stuck_of_blank hblank, iff_of_true rfl hblank⟩
  | succ n ih =>
    by_cases hs : skipBlanks s = []
    · have hblank := skipBlanks_eq_nil_iff.1 hs
      rw [hs]
      exact ⟨[], s, .nil s, rfl, stuck_of_blank hblank, iff_of_true rfl hblank⟩
    have hnot : ¬Blank s := fun h => hs (skipBlanks_eq_nil_iff.2 h)
    rw [readUpTo.eq_3 _ _ _ hs]
    cases hread : readField (skipBlanks s) with
    | error e =>
      refine ⟨[], s, .nil s, rfl, fun f rest hf => ?_, iff_of_false nofun hnot⟩
      rw [stands_iff.1 hf] at hread
      cases hread
    | ok r =>
      obtain ⟨k, v, t⟩ := r
      have hfirst : Stands (k, v) s t := stands_iff.2 hread
      dsimp only
      cases hedit : sub.edit? k v with
      | none =>
        refine ⟨[], s, .nil s, rfl, fun f rest hf => ?_, iff_of_false nofun hnot⟩
        obtain ⟨rfl, rfl⟩ := hf.unique hfirst
        exact hedit
      | some next =>
        have hlen : (skipBlanks t).length ≤ n := by
          have hskip : (skipBlanks t).length ≤ t.length := (List.dropWhile_sublist _).length_le
          have hlt := hfirst.length_lt
          omega
        obtain ⟨fs, rest, hothers, hx, hend⟩ := ih next t hlen
        refine ⟨(k, v) :: fs, rest, .cons hfirst hothers, ?_, hend⟩
        rw [applied_cons, hedit]
        exact hx

lemma readInto_row (sub : Submission) (s : Bytes) :
    ∃ fs rest, Row fs s rest ∧ applied sub fs = some (readInto sub s).2 ∧
      Stuck (readInto sub s).2 rest ∧ ((readInto sub s).1 = none ↔ Blank rest ∧ fs ≠ []) := by
  by_cases hs : skipBlanks s = []
  · rw [readInto, if_pos hs]
    refine ⟨[], s, .nil s, rfl, stuck_of_blank (skipBlanks_eq_nil_iff.1 hs), ?_⟩
    exact iff_of_false nofun fun h => h.2 rfl
  · rw [readInto, if_neg hs]
    obtain ⟨fs, rest, hrow, hx, hstuck, hend⟩ :=
      readUpTo_row s.length sub s (List.dropWhile_sublist _).length_le
    refine ⟨fs, rest, hrow, hx, hstuck, hend.trans (iff_self_and.2 ?_)⟩
    rintro hblank rfl
    cases hrow
    exact hs (skipBlanks_eq_nil_iff.2 hblank)

/-! ### Writing fields -/

/-- A field with its value between quotes. -/
def quoted (f : Bytes × Bytes) : Bytes := f.1 ++ 61 :: 34 :: f.2 ++ [34]

/-- The fields in one line, with a space between each two. -/
def render (fs : List (Bytes × Bytes)) : Bytes := (ascii " ").intercalate (fs.map quoted)

lemma stands_quoted {before : Bytes} (hbefore : Blank before) (hk : Key f.1)
    (hlen : f.2.length ≤ 63) (hv : 34 ∉ f.2) (rest : Bytes) : Stands f (before ++ (quoted f ++ rest)) rest :=
  ⟨before, 34 :: f.2 ++ [34], by simp [quoted], hbefore, hk, .quoted rest hlen hv⟩

lemma row_render (hne : fs ≠ []) (hfs : ∀ f ∈ fs, Key f.1 ∧ f.2.length ≤ 63 ∧ 34 ∉ f.2)
    {before : Bytes} (hbefore : Blank before) : Row fs (before ++ render fs) [] := by
  induction fs generalizing before with
  | nil => exact absurd rfl hne
  | cons f fs ih =>
    rw [List.forall_mem_cons] at hfs
    obtain ⟨⟨hk, hlen, hv⟩, hfs⟩ := hfs
    have hfirst := stands_quoted hbefore hk hlen hv
    cases fs with
    | nil =>
      have hone : render [f] = quoted f ++ [] := by simp [render]
      rw [hone]
      exact .cons (hfirst []) (.nil [])
    | cons g fs =>
      have hmore : render (f :: g :: fs) = quoted f ++ (ascii " " ++ render (g :: fs)) := by
        simp [render, List.intercalate]
      rw [hmore]
      exact .cons (hfirst _) (ih nofun hfs (List.forall_mem_singleton.2 rfl))

/-- Whether a field takes a value does not depend on what it holds. -/
lemma isSome_edit? (s s' : Submission) : (s.edit? k v).isSome = (s'.edit? k v).isSome := by
  have hset (c c' : Config) (f : Field) : (c.set? f v).isSome = (c'.set? f v).isSome := by
    cases f <;> simp only [Config.set?, Option.isSome_map]
  unfold Submission.edit?
  cases Field.ofKey? k with
  | none => rfl
  | some f =>
    by_cases hv : v = []
    · simp [hv]
    · simp [hv, hset s.values s'.values f]

lemma key_of_edit? (h : (sub.edit? k v).isSome) : Key k := by
  cases hf : Field.ofKey? k with
  | none => simp [Submission.edit?, hf] at h
  | some f =>
    have hkey := List.find?_some hf
    rw [beq_iff_eq] at hkey
    have hlength : f.key.length ≤ 23 := by cases f <;> decide
    have hplain : f.key.all isKeyByte = true := by cases f <;> rfl
    rw [← hkey]
    exact ⟨hlength, fun b hb => isKeyByte_iff.1 (List.all_eq_true.1 hplain b hb)⟩

lemma isSome_applied (h : ∀ f ∈ fs, (sub.edit? f.1 f.2).isSome) : (applied sub fs).isSome := by
  induction fs generalizing sub with
  | nil => rfl
  | cons f fs ih =>
    rw [List.forall_mem_cons] at h
    obtain ⟨next, hnext⟩ := Option.isSome_iff_exists.1 h.1
    rw [applied_cons, hnext]
    exact ih fun f hf => (isSome_edit? next sub).trans (h.2 f hf)

/-! ### Main result -/

/-- **Reading accepts exactly the grammar**: a text is accepted when it is a row of fields, at least
one, with nothing but blanks around them, and every field is accepted; the submission is what the
fields come to, one after another. A text that is not accepted leaves what the fields before the
first one at fault come to. Accepted values that fit are read back from a line with them. -/
theorem reading_follows_grammar (sub : Submission) :
    (∀ s x, readInto sub s = (none, x) ↔
      ∃ fs rest, fs ≠ [] ∧ Row fs s rest ∧ Blank rest ∧ applied sub fs = some x) ∧
    (∀ s x, (∃ e, readInto sub s = (some e, x)) ↔
      ∃ fs rest, Row fs s rest ∧ applied sub fs = some x ∧ Stuck x rest ∧ (Blank rest → fs = [])) ∧
    ∀ fs, fs ≠ [] →
      (∀ f ∈ fs, (sub.edit? f.1 f.2).isSome ∧ f.2.length ≤ 63 ∧ 34 ∉ f.2) →
      ∃ x, applied sub fs = some x ∧ readInto sub (render fs) = (none, x) := by
  have haccepts (s : Bytes) (x : Submission) : readInto sub s = (none, x) ↔
      ∃ fs rest, fs ≠ [] ∧ Row fs s rest ∧ Blank rest ∧ applied sub fs = some x := by
    obtain ⟨fs, rest, hrow, hx, hstuck, hend⟩ := readInto_row sub s
    constructor
    · intro h
      rw [h] at hx hend
      obtain ⟨hblank, hne⟩ := hend.1 rfl
      exact ⟨fs, rest, hne, hrow, hblank, hx⟩
    · rintro ⟨fs', rest', hne, hrow', hblank, hx'⟩
      obtain ⟨rfl, rfl, rfl⟩ := hrow.unique hx hstuck hrow' hx' (stuck_of_blank hblank)
      exact Prod.ext (hend.2 ⟨hblank, hne⟩) rfl
  refine ⟨haccepts, fun s x => ?_, fun fs hne hfs => ?_⟩
  · obtain ⟨fs, rest, hrow, hx, hstuck, hend⟩ := readInto_row sub s
    constructor
    · rintro ⟨e, h⟩
      rw [h] at hx hstuck hend
      refine ⟨fs, rest, hrow, hx, hstuck, fun hblank => ?_⟩
      by_contra hne
      cases hend.2 ⟨hblank, hne⟩
    · rintro ⟨fs', rest', hrow', hx', hstuck', hblank⟩
      obtain ⟨rfl, rfl, rfl⟩ := hrow.unique hx hstuck hrow' hx' hstuck'
      have hfault : (readInto sub s).1 ≠ none := fun h => (hend.1 h).2 (hblank (hend.1 h).1)
      obtain ⟨e, he⟩ := Option.ne_none_iff_exists'.1 hfault
      exact ⟨e, Prod.ext he rfl⟩
  · obtain ⟨x, hx⟩ := Option.isSome_iff_exists.1 (isSome_applied fun f hf => (hfs f hf).1)
    have hrow : Row fs ([] ++ render fs) [] :=
      row_render hne (fun f hf => ⟨key_of_edit? (hfs f hf).1, (hfs f hf).2⟩) nofun
    exact ⟨x, hx, (haccepts _ x).2 ⟨fs, [], hne, hrow, nofun, hx⟩⟩

/-- A text with a space in it and a port are read back. -/
theorem written_line_read :
    let fs := [(ascii "wifi_ssid", ascii "my home"), (ascii "mqtt_port", ascii "8883")]
    (render fs = ascii "wifi_ssid=\"my home\" mqtt_port=\"8883\"" ∧
      ∀ f ∈ fs, (({} : Submission).edit? f.1 f.2).isSome ∧ f.2.length ≤ 63 ∧ 34 ∉ f.2) ∧
    ∃ x, applied {} fs = some x ∧ readInto {} (render fs) = (none, x) := by
  intro fs
  have hfs : ∀ f ∈ fs, (({} : Submission).edit? f.1 f.2).isSome ∧ f.2.length ≤ 63 ∧ 34 ∉ f.2 := by
    decide +kernel
  exact ⟨⟨by decide +kernel, hfs⟩, (reading_follows_grammar {}).2.2 fs nofun hfs⟩

/-- A port that is accepted, with so many zeros in front that it does not fit. -/
def longPort : List (Bytes × Bytes) := [(ascii "mqtt_port", List.replicate 60 48 ++ ascii "8883")]

/-- A value that is accepted need not be read back. -/
theorem long_value_not_read : ¬∀ fs : List (Bytes × Bytes), fs ≠ [] →
    (∀ f ∈ fs, (Field.ofKey? f.1).isSome ∧ f.2 ≠ [] ∧ (({} : Submission).edit? f.1 f.2).isSome ∧
      34 ∉ f.2) →
    ∃ x, applied {} fs = some x ∧ readInto {} (render fs) = (none, x) := by
  intro h
  obtain ⟨x, -, hread⟩ := h longPort nofun (by decide +kernel)
  have hfault : (readInto {} (render longPort)).1 = some (.valueTooLong (ascii "mqtt_port")) := by
    decide +kernel
  rw [hread] at hfault
  cases hfault

end Fields

end DoorControl
