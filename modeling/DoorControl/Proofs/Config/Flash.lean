import DoorControl.Config.Store
import DoorControl.Proofs.Config.Record
import DoorControl.Proofs.Program

/-!
Storage as the device finds it: values by key that may come back cut, stay when they are removed,
or be left torn by a write, as far as rules allow it.
-/

namespace DoorControl

open Bytes Program Store

/-- How a write goes. -/
inductive Fate
  | complete
  | refused
  | torn
deriving DecidableEq

/-- What a write of `value` over `old` may leave, and how many bytes it may report. A torn one leaves
any bytes that are no record, with any count. -/
def Fate.Leaves (old value left : Bytes) (count : Nat) : Fate → Prop
  | complete => left = value ∧ count = value.length
  | refused => left = old ∧ count < value.length
  | torn => Record.decode? left = none

/-- A torn write looks like a complete one: all of it is reported written, and it leaves a longer
value that may be read back, into the room for what was written, as just that. -/
def Fate.Deceives (read : Bytes → Nat → Bytes → Prop) (value left : Bytes) (count : Nat)
    (f : Fate) : Prop :=
  f = torn ∧ count = value.length ∧ value.length < left.length ∧ read left value.length value

/-- What a write of a record leaves to be found. -/
def Fate.found (old : Found) (new : Config × UInt32) : Fate → Found
  | complete => some new
  | refused => old
  | torn => none

namespace Fate.Leaves

variable {f : Fate} {old left : Bytes} {count : Nat} {c : Config} {seq : UInt32}

lemma decode?_left (h : f.Leaves old (Record.encode c seq) left count) (hc : c.complete) :
    Record.decode? left = f.found (Record.decode? old) (c.normal, seq) := by
  cases f with
  | complete => rw [h.1, Record.decode?_encode_complete hc, found]
  | refused => rw [h.1, found]
  | torn => exact h

/-- A write of a record that is reported whole and read back whole was complete, or looks so. -/
lemma complete_or_deceives {read : Bytes → Nat → Bytes → Prop}
    (h : f.Leaves old (Record.encode c seq) left count) (hc : c.complete)
    (hread : ∀ there room got, there.length ≤ room → (read there room got ↔ got = there))
    (hcount : count = (Record.encode c seq).length)
    (hback : read left (Record.encode c seq).length (Record.encode c seq)) :
    f = .complete ∨ f.Deceives read (Record.encode c seq) left count := by
  cases f with
  | complete => exact .inl rfl
  | refused => exact absurd hcount (Nat.ne_of_lt h.2)
  | torn =>
    rcases Nat.lt_or_ge (Record.encode c seq).length left.length with hlong | hfit
    · exact .inr ⟨rfl, hcount, hlong, hback⟩
    · rw [Leaves, ← (hread _ _ _ hfit).1 hback, Record.decode?_encode_complete hc] at h
      cases h

end Fate.Leaves

/-- Storage: values by key, empty where there is none, and the fates of its writes, the newest
first. -/
structure Flash where
  value : Bytes → Bytes
  fates : List Fate := []
  /-- A torn write looked like a complete one. -/
  mistaken : Prop := False

lemma Store.Slot.key_inj {x y : Slot} : x.key = y.key ↔ x = y := by
  cases x <;> cases y <;> decide

namespace Flash

/-- What may go wrong with storage. -/
structure Rules where
  /-- What may come of a value that is read into some room. -/
  read : Bytes → Nat → Bytes → Prop
  /-- Whether a removed value may be gone, and with which answer. -/
  remove : Bool → Bool → Prop
  write : Fate → Prop

/-- A value that fits the room is read as it is. -/
def Rules.ReadsFit (R : Rules) : Prop :=
  ∀ there room got, there.length ≤ room → (R.read there room got ↔ got = there)

/-- Reads and removes are faithful; writes may go in any way. What may come of a value that does not
fit the room, such as its beginning or nothing, is `long`. -/
def Rules.faithful (long : Bytes → Nat → Bytes → Prop) : Rules where
  read there room got := if there.length ≤ room then got = there else long there room got
  remove gone ok := gone ∧ ok
  write _ := True

lemma Rules.readsFit_faithful (long : Bytes → Nat → Bytes → Prop) : (faithful long).ReadsFit :=
  fun _ _ _ hfit => by simp [faithful, if_pos hfit]

/-- The storage with a value in the place of the one under a key. -/
def put (s : Flash) (key v : Bytes) : Flash :=
  { s with value := fun k => if k = key then v else s.value k }

@[simp] lemma put_value (s : Flash) (key v k : Bytes) :
    (s.put key v).value k = if k = key then v else s.value k := rfl

@[simp] lemma put_fates (s : Flash) (key v : Bytes) : (s.put key v).fates = s.fates := rfl

@[simp] lemma put_mistaken (s : Flash) (key v : Bytes) : (s.put key v).mistaken = s.mistaken := rfl

/-- What storage may answer, and what becomes of it. -/
def May (R : Rules) : (c : Hardware.Call) → Flash → Hardware.Answer c → Flash → Prop
  | .storedLength key, s, n, s' => n = (s.value key).length ∧ s' = s
  | .storedRead key room, s, got, s' => R.read (s.value key) room got ∧ s' = s
  | .storedRemove key, s, ok, s' => ∃ gone, R.remove gone ok ∧ s' = if gone then s.put key [] else s
  | .storedWrite key v, s, count, s' => ∃ f left, R.write f ∧
      f.Leaves (s.value key) v left count ∧
      s' = { s.put key left with
        fates := f :: s.fates
        mistaken := s.mistaken ∨ f.Deceives R.read v left count }
  | _, s, _, s' => s' = s

/-- Surroundings with such a storage in them. -/
def surroundings (R : Rules) : Surroundings Hardware Flash := ⟨May R⟩

/-- The record in a slot, if there is one. -/
def found (s : Flash) (slot : Slot) : Found := Record.decode? (s.value slot.key)

/-- The newest configuration stored. -/
def newest (s : Flash) : Option Config := (newest? (s.found .a) (s.found .b)).map (·.2.1)

lemma found_put (s : Flash) (slot : Slot) (v : Bytes) (fates : List Fate) (mistaken : Prop) :
    ({ s.put slot.key v with fates := fates, mistaken := mistaken } : Flash).found =
      Function.update s.found slot (Record.decode? v) := by
  funext x
  by_cases h : x = slot
  · subst h
    simp [found]
  · simp [found, Slot.key_inj, h]

/-- The calls that leave storage as it is. -/
def Spared : Hardware.Call → Prop
  | .storedWrite _ _ | .storedRemove _ => False
  | _ => True

lemma keeps {R : Rules} {α : Type} {p : Program Hardware α} {post : α → Prop}
    (hp : p.Confined Spared post) (s : Flash) :
    p.Ensures (surroundings R) (fun a s' => post a ∧ s' = s) s := by
  refine hp.ensures (K := (· = s)) ?_ rfl
  rintro c s' r s'' hc hr rfl
  cases c with
  | storedWrite key v => exact hc.elim
  | storedRemove key => exact hc.elim
  | storedLength key => exact hr.2
  | storedRead key room => exact hr.2
  | _ => exact hr

/-! ### Calls of storage -/

section Calls

variable {R : Rules} {α : Type} (s : Flash) (post : α → Flash → Prop)

@[simp] lemma ensures_log (line : Bytes) (next : Unit → Program Hardware α) :
    (call (I := Hardware) (.log line) next).Ensures (surroundings R) post s ↔
      (next ()).Ensures (surroundings R) post s :=
  ⟨fun h => h () s rfl, by rintro h ⟨⟩ _ rfl; exact h⟩

@[simp] lemma ensures_storedLength (key : Bytes) (next : Nat → Program Hardware α) :
    (call (I := Hardware) (.storedLength key) next).Ensures (surroundings R) post s ↔
      (next (s.value key).length).Ensures (surroundings R) post s :=
  ⟨fun h => h _ s ⟨rfl, rfl⟩, by rintro h _ _ ⟨rfl, rfl⟩; exact h⟩

@[simp] lemma ensures_storedRead (key : Bytes) (room : Nat) (next : Bytes → Program Hardware α) :
    (call (I := Hardware) (.storedRead key room) next).Ensures (surroundings R) post s ↔
      ∀ got, R.read (s.value key) room got → (next got).Ensures (surroundings R) post s :=
  ⟨fun h got hgot => h got s ⟨hgot, rfl⟩, by rintro h got _ ⟨hgot, rfl⟩; exact h got hgot⟩

@[simp] lemma ensures_storedRemove (key : Bytes) (next : Bool → Program Hardware α) :
    (call (I := Hardware) (.storedRemove key) next).Ensures (surroundings R) post s ↔
      ∀ gone ok, R.remove gone ok →
        (next ok).Ensures (surroundings R) post (if gone then s.put key [] else s) :=
  ⟨fun h gone ok hok => h ok _ ⟨gone, hok, rfl⟩,
    by rintro h ok _ ⟨gone, hok, rfl⟩; exact h gone ok hok⟩

@[simp] lemma ensures_storedWrite (key v : Bytes) (next : Nat → Program Hardware α) :
    (call (I := Hardware) (.storedWrite key v) next).Ensures (surroundings R) post s ↔
      ∀ f left count, R.write f → f.Leaves (s.value key) v left count →
        (next count).Ensures (surroundings R) post { s.put key left with
          fates := f :: s.fates
          mistaken := s.mistaken ∨ f.Deceives R.read v left count } :=
  ⟨fun h f left count hf hl => h count _ ⟨f, left, hf, hl, rfl⟩,
    by rintro h count _ ⟨f, left, hf, hl, rfl⟩; exact h f left count hf hl⟩

end Calls

end Flash

namespace Store

open Flash

variable {R : Rules} (s : Flash)

lemma readSlot_ensures (hR : R.ReadsFit) (slot : Slot) :
    (readSlot slot).Ensures (surroundings R) (fun r s' => r = s.found slot ∧ s' = s) s := by
  simp [readSlot]
  refine ⟨fun h => (Record.decode?_eq_none (by rw [h]; decide)).symm, fun _ =>
    ⟨fun hsize got hgot => ?_, fun h => (Record.decode?_eq_none h).symm⟩⟩
  obtain rfl := (hR _ _ _ (Nat.le_of_eq hsize)).1 hgot
  refine ⟨fun _ => ?_, fun h => absurd hsize h⟩
  unfold found
  cases Record.decode? (s.value slot.key) <;> simp

lemma load_ensures (hR : R.ReadsFit) :
    load.Ensures (surroundings R) (fun r s' => r = s.newest ∧ s' = s) s := by
  refine (readSlot_ensures s hR .a).bind ?_
  rintro _ _ ⟨rfl, rfl⟩
  refine (readSlot_ensures _ hR .b).bind ?_
  rintro _ _ ⟨rfl, rfl⟩
  exact ⟨rfl, rfl⟩

lemma load_newest (hR : R.ReadsFit) :
    load.Ensures (surroundings R) (fun r _ => r = s.newest) s :=
  (load_ensures s hR).mono fun _ _ => And.left

lemma readSlot_goes (hR : R.ReadsFit) {slot : Slot} {post : Found → Flash → Prop}
    (h : (readSlot slot).Ensures (surroundings R) post s) : post (s.found slot) s := by
  simp [readSlot] at h
  obtain ⟨hempty, hsome⟩ := h
  by_cases hsize : (s.value slot.key).length = Record.size
  · have hvalue : s.value slot.key ≠ [] := by
      intro hvalue
      rw [hvalue] at hsize
      exact absurd hsize (by decide)
    have hread := ((hsome hvalue).1 hsize _ ((hR _ _ _ (Nat.le_of_eq hsize)).2 rfl)).1 hsize
    unfold found
    cases hd : Record.decode? (s.value slot.key) with
    | none => simpa [hd] using hread
    | some r => simpa [hd] using hread
  · rw [show s.found slot = none from Record.decode?_eq_none hsize]
    by_cases hlength : s.value slot.key = []
    · exact hempty hlength
    · exact (hsome hlength).2 hsize

lemma load_goes (hR : R.ReadsFit) {post : Option Config → Flash → Prop}
    (h : load.Ensures (surroundings R) post s) : post s.newest s := by
  have hfirst := readSlot_goes s hR ((ensures_bind _ _ _ _).1 h)
  exact readSlot_goes s hR ((ensures_bind _ _ _ _).1 hfirst)

/-- An incomplete configuration is refused before anything is touched. -/
lemma save_incomplete {c : Config} (hc : c.complete = false) :
    save c = pure (some .invalidConfig) := by
  simp [save, hc]

/-- Writes a record to a slot, under a sequence number, and reads it back. -/
def write (c : Config) (slot : Slot) (seq : UInt32) : Program Hardware (Option StoreError) := do
  let record := Record.encode c seq
  let written ← Hardware.storedWrite slot.key record
  if written ≠ record.length then
    Hardware.error tag (ascii "write " ++ slot.key ++ ascii " failed")
    pure (some .writeFailed)
  else
    let check ← Hardware.storedRead slot.key Record.size
    if check ≠ record then
      Hardware.error tag (ascii "verify " ++ slot.key ++ ascii " failed")
      pure (some .writeFailed)
    else
      Hardware.info tag (ascii "saved " ++ slot.key ++ ascii " seq=" ++ decimal seq.toNat)
      pure none

lemma save_eq {c : Config} (hc : c.complete = true) : save c = readSlot .a >>= fun a =>
    readSlot .b >>= fun b => write c (next a b).1 (next a b).2 := by
  unfold save
  rw [hc]
  rfl

/-- What becomes of a save of a complete configuration: one record is written in the place of the
older one. -/
structure Saved (R : Rules) (s : Flash) (c : Config) (f : Fate) (r : Option StoreError)
    (s' : Flash) : Prop where
  allowed : R.write f
  fates : s'.fates = f :: s.fates
  found :
    let target := next (s.found .a) (s.found .b)
    s'.found = Function.update s.found target.1
      (f.found (s.found target.1) (c.normal, target.2))
  mistaken : s.mistaken → s'.mistaken
  done : f = .complete → r = none
  /-- Without an error the record was written, or a torn write looked so. -/
  wrote : r = none → f = .complete ∨ f = .torn ∧ s'.mistaken

lemma saved_of_leaves {c : Config} (hc : c.complete) {slot : Slot} {seq : UInt32}
    (htarget : next (s.found .a) (s.found .b) = (slot, seq)) {f : Fate} (hf : R.write f)
    {left : Bytes} {count : Nat}
    (hl : f.Leaves (s.value slot.key) (Record.encode c seq) left count) {r : Option StoreError}
    (hdone : f = .complete → r = none)
    (hwrote : r = none → f = .complete ∨ f.Deceives R.read (Record.encode c seq) left count) :
    Saved R s c f r { s.put slot.key left with
      fates := f :: s.fates
      mistaken := s.mistaken ∨ f.Deceives R.read (Record.encode c seq) left count } where
  allowed := hf
  fates := rfl
  found := by
    rw [htarget, found_put, hl.decode?_left hc]
    rfl
  mistaken := Or.inl
  done := hdone
  wrote hr := (hwrote hr).imp_right fun hd => ⟨hd.1, Or.inr hd⟩

lemma save_ensures (hR : R.ReadsFit) {c : Config} (hc : c.complete) :
    (save c).Ensures (surroundings R) (fun r s' => ∃ f, Saved R s c f r s') s := by
  rw [save_eq hc]
  refine (readSlot_ensures s hR .a).bind ?_
  rintro _ _ ⟨rfl, rfl⟩
  refine (readSlot_ensures _ hR .b).bind ?_
  rintro _ s ⟨rfl, rfl⟩
  rcases htarget : next (s.found .a) (s.found .b) with ⟨slot, seq⟩
  simp [write]
  intro f left count hf hl
  refine ⟨fun hcount got hgot => ?_, fun hcount => ?_⟩
  · rw [← Record.length_encode c seq] at hgot
    refine ⟨?_, fun hne => ?_⟩
    · rintro rfl
      exact ⟨f, saved_of_leaves s hc htarget hf hl (fun _ => rfl) fun _ =>
        hl.complete_or_deceives hc hR hcount hgot⟩
    · refine ⟨f, saved_of_leaves s hc htarget hf hl ?_ nofun⟩
      rintro rfl
      rw [hl.1] at hgot
      exact absurd ((hR _ _ _ (Nat.le_refl _)).1 hgot) hne
  · refine ⟨f, saved_of_leaves s hc htarget hf hl ?_ nofun⟩
    rintro rfl
    exact absurd hl.2 hcount

lemma erase_ensures (long : Bytes → Nat → Bytes → Prop) :
    erase.Ensures (surroundings (.faithful long)) (fun r s' =>
      r = none ∧ s'.fates = s.fates ∧ s'.mistaken = s.mistaken ∧ s'.found = fun _ => none) s := by
  have hgone : ((s.put Slot.a.key []).put Slot.b.key []).found = fun _ => none := by
    funext slot
    cases slot <;> rfl
  simp [erase, Rules.faithful, Slot.key_inj, hgone]

end Store

end DoorControl
