import DoorControl.Proofs.Config.Slots

/-!
A save whose reads come back short. It takes a slot that it cannot read for an empty one: unless it
read the newest record, it may write in the place of that one, or under a number that does not come
after it.
-/

namespace DoorControl

open Bytes Program

/-! ### Storage that cannot be read for a while -/

namespace Flash

/-- Storage whose values under the keys in `short` come back short until it is written. Afterwards
every read may. A write may be torn into any bytes that are no record, with any count. -/
def Blurs (long : Bytes → Nat → Bytes → Prop) (short : Bytes → Bool) :
    (c : Hardware.Call) → Flash → Hardware.Answer c → Flash → Prop
  | .storedRead key room, s, got, s' => s' = s ∧
      if s.fates = [] ∧ short key then got.length < room
      else s.fates ≠ [] ∧ got.length < room ∨ (Rules.faithful long).read (s.value key) room got
  | .storedWrite key v, s, count, s' => ∃ f left,
      f.Leaves (s.value key) v left count ∧
        s' = { s.put key left with fates := f :: s.fates }
  | c, s, r, s' => May (.faithful long) c s r s'

def blurred (long : Bytes → Nat → Bytes → Prop) (short : Bytes → Bool) :
    Surroundings Hardware Flash := ⟨Blurs long short⟩

end Flash

namespace Store

open Flash

/-- What is seen of the slots when the values under the keys in `short` come back short. -/
def seen (short : Bytes → Bool) (f : Slot → Found) (x : Slot) : Found :=
  if short x.key then none else f x

variable {long : Bytes → Nat → Bytes → Prop} {short : Bytes → Bool} (s : Flash)

lemma readSlot_blurred (hs : s.fates = []) (x : Slot) :
    (readSlot x).Ensures (blurred long short) (fun r s' => r = seen short s.found x ∧ s' = s) s := by
  have hnone (h : s.found x = none) : none = seen short s.found x := by
    rw [seen, h, ite_self]
  have hunread (line : Bytes) (h : none = seen short s.found x) :
      (Hardware.log .warning tag line >>= fun _ => pure none).Ensures (blurred long short)
        (fun r s' => r = seen short s.found x ∧ s' = s) s :=
    fun _ _ hs' => ⟨h, hs'⟩
  rintro _ s' ⟨rfl, hs'⟩
  rw [hs']
  change (ite _ _ _ : Program Hardware Found).Ensures _ _ _
  by_cases hsize : (s.value x.key).length = Record.size
  case neg =>
    have hfound : s.found x = none := Record.decode?_eq_none hsize
    split
    · exact ⟨hnone hfound, rfl⟩
    · exact hunread _ (hnone hfound)
  rw [if_neg (by rw [hsize]; decide), if_neg (not_not_intro hsize)]
  rintro got s' ⟨hs', hgot⟩
  rw [hs']
  change (ite _ _ _ : Program Hardware Found).Ensures _ _ _
  by_cases hx : short x.key = true
  · -- a value that is cut short is told from a record by its length
    rw [if_pos ⟨hs, hx⟩] at hgot
    rw [if_pos (Nat.ne_of_lt hgot)]
    exact hunread _ (by rw [seen, if_pos hx])
  · rw [if_neg fun h => hx h.2] at hgot
    obtain ⟨hlate, -⟩ | hgot := hgot
    · exact absurd hs hlate
    obtain rfl : got = s.value x.key := (if_pos (Nat.le_of_eq hsize)).mp hgot
    have hseen : seen short s.found x = Record.decode? (s.value x.key) := by
      rw [seen, if_neg hx, found]
    rw [if_neg (not_not_intro hsize)]
    cases hd : Record.decode? (s.value x.key) with
    | some r => exact ⟨(hseen.trans hd).symm, rfl⟩
    | none => exact hunread _ (hseen.trans hd).symm

/-! ### What a save leaves -/

/-- How the write of a record went, and what it left to be found. -/
structure Wrote (s : Flash) (c : Config) (slot : Slot) (seq : UInt32) (f : Fate) (s' : Flash) :
    Prop where
  fates : s'.fates = f :: s.fates
  found : s'.found = Function.update s.found slot (f.found (s.found slot) (c.normal, seq))

/-- A write that ends without an error was complete, or has left more bytes than a record has. -/
lemma write_blurred {c : Config} (hc : c.complete = true) (slot : Slot) (seq : UInt32) :
    (write c slot seq).Ensures (blurred long short) (fun r s' => ∃ f, Wrote s c slot seq f s' ∧
      (r = none → f = .complete ∨ f = .torn ∧ Record.size < (s'.value slot.key).length)) s := by
  rintro count t ⟨f, left, hleft, ht⟩
  have hwrote : Wrote s c slot seq f t := by
    refine ⟨by rw [ht], ?_⟩
    rw [ht, found_put, hleft.decode?_left hc, Flash.found]
  have hfailed (line : Bytes) : (Hardware.log .error tag line >>= fun _ =>
      pure (some StoreError.writeFailed)).Ensures (blurred long short) (fun r s' => ∃ f,
        Wrote s c slot seq f s' ∧
        (r = none → f = .complete ∨ f = .torn ∧ Record.size < (s'.value slot.key).length)) t := by
    rintro _ t' rfl
    exact ⟨f, hwrote, fun h => absurd h (Option.some_ne_none _)⟩
  change (ite _ _ _ : Program Hardware (Option StoreError)).Ensures _ _ _
  split
  · exact hfailed _
  rename_i hcount
  rintro check t' ⟨ht', hcheck⟩
  rw [ht']
  change (ite _ _ _ : Program Hardware (Option StoreError)).Ensures _ _ _
  split
  · exact hfailed _
  rename_i hsame
  rintro _ t'' ht''
  obtain rfl : t'' = t := ht''
  refine ⟨f, hwrote, fun _ => ?_⟩
  obtain rfl : check = Record.encode c seq := not_not.1 hsame
  have hread : (Rules.faithful long).read left Record.size (Record.encode c seq) := by
    rw [hwrote.fates, if_neg fun h => List.cons_ne_nil _ _ h.1] at hcheck
    rcases hcheck with ⟨-, hcut⟩ | hread
    · exact absurd (Record.length_encode c seq) (Nat.ne_of_lt hcut)
    · simpa [ht] using hread
  cases f with
  | complete => exact .inl rfl
  | refused => exact absurd (not_not.1 hcount) (Nat.ne_of_lt hleft.2)
  | torn =>
    refine .inr ⟨rfl, ?_⟩
    by_contra hfit
    have hfit : left.length ≤ Record.size := by simpa [ht] using hfit
    have hwhole : Record.encode c seq = left := (if_pos hfit).mp hread
    have hdecode : Record.decode? left = none := hleft
    rw [← hwhole, Record.decode?_encode_complete hc] at hdecode
    cases hdecode

/-! ### The slots afterwards -/

variable {f g : Slot → Found}

lemma found_of_seen {x : Slot × Config × UInt32}
    (h : newest? (seen short f .a) (seen short f .b) = some x) : f x.1 = some x.2 := by
  have hthere {y : Slot} {r : Config × UInt32} (hy : seen short f y = some r) : f y = some r := by
    unfold seen at hy
    split at hy
    · cases hy
    · exact hy
  rcases newest?_eq_some h with ⟨hx, hy⟩ | ⟨hx, hy⟩
  · rw [hx]
    exact hthere hy
  · rw [hx]
    exact hthere hy

lemma newest?_seen (h : ∀ x ∈ newest? (f .a) (f .b), short x.1.key = false) :
    newest? (seen short f .a) (seen short f .b) = newest? (f .a) (f .b) := by
  cases hf : newest? (f .a) (f .b) with
  | none =>
    obtain ⟨ha, hb⟩ := newest?_eq_none hf
    simp [seen, ha, hb, newest?]
  | some x =>
    have hx := h x hf
    obtain ⟨y, d, n⟩ := x
    rcases newest?_eq_some hf with ⟨rfl, ha⟩ | ⟨rfl, hb⟩
    · by_cases hb : short Slot.b.key = true
      · simp [seen, hx, hb, ha, newest?]
      · simpa [seen, hx, hb] using hf
    · by_cases ha : short Slot.a.key = true
      · simp [seen, hx, ha, hb, newest?]
      · simpa [seen, hx, ha] using hf

lemma update_congr {t : Slot} (h : f t.other = g t.other) (v : Found) :
    Function.update f t v = Function.update g t v := by
  funext x
  by_cases hx : x = t
  · rw [hx, Function.update_self, Function.update_self]
  · rw [Function.update_of_ne hx, Function.update_of_ne hx, Slot.eq_other_of_ne hx, h]

lemma newest?_lost (f : Slot → Found) (t : Slot) :
    newest? (Function.update f t none .a) (Function.update f t none .b) =
      (f t.other).map fun r => (t.other, r) := by
  cases t with
  | a => cases hb : f .b <;> simp [Slot.other, hb, newest?]
  | b => cases ha : f .a <;> simp [Slot.other, ha, newest?]

/-- Where the next record goes by what is seen of the slots, and its sequence number. -/
def target (short : Bytes → Bool) (f : Slot → Found) : Slot × UInt32 :=
  next (seen short f .a) (seen short f .b)

/-- Nothing is seen of a record that comes after the first one. -/
structure Overtaken (short : Bytes → Bool) (f : Slot → Found) : Prop where
  seen : newest? (seen short f .a) (seen short f .b) = none
  newer : ∃ d n, f .b = some (d, n) ∧ newer n 1 = true

/-- The record that is written is the newest, unless it is overtaken by one that was not seen. -/
lemma newest?_written (d : Config) :
    let t := target short f
    let g := Function.update f t.1 (some (d, t.2))
    (¬Overtaken short f → newest? (g .a) (g .b) = some (t.1, d, t.2)) ∧
      (Overtaken short f → (newest? (g .a) (g .b)).map (·.2) = f .b) := by
  intro t g
  cases h : newest? (seen short f .a) (seen short f .b) with
  | none =>
    have ht : t = (.a, 1) := by simp [t, target, next, h]
    have ha : g .a = some (d, 1) := by simp [g, ht]
    have hb : g .b = f .b := by simp [g, ht]
    rw [ha, hb, ht]
    cases hf : f .b with
    | none => exact ⟨fun _ => rfl, fun ho => by simpa [hf] using ho.newer⟩
    | some r =>
      obtain ⟨e, n⟩ := r
      cases hn : newer n 1 with
      | true =>
        refine ⟨fun ho => absurd ⟨h, e, n, hf, hn⟩ ho, fun _ => ?_⟩
        simp [newest?, hn]
      | false =>
        refine ⟨fun _ => by simp [newest?, hn], fun ho => ?_⟩
        obtain ⟨e', n', hf', hn'⟩ := ho.newer
        cases hf.symm.trans hf'
        exact absurd (hn.symm.trans hn') Bool.false_ne_true
  | some x =>
    have ht : t.1.other = x.1 := by simp [t, target, next, h]
    have hseen : seen short f x.1 = f x.1 := by
      rw [found_of_seen h]
      rcases newest?_eq_some h with ⟨hx, hs⟩ | ⟨hx, hs⟩
      · rw [hx, hs]
      · rw [hx, hs]
    have hg : g = Function.update (seen short f) t.1 (some (d, t.2)) :=
      update_congr (by rw [ht, hseen]) _
    refine ⟨fun _ => ?_, fun ho => absurd (h.symm.trans ho.seen) (Option.some_ne_none x)⟩
    rw [hg]
    exact newest?_next (seen short f) d

/-! ### Main result -/

/-- What there is to load after a save that could not read some of the slots. -/
structure Blurred (short : Bytes → Bool) (s : Flash) (c : Config) (r : Option StoreError) (f : Fate)
    (s' : Flash) : Prop where
  fates : s'.fates = [f]
  /-- Without an error the record was written, or more bytes than a record has. -/
  error : r = none → f = .complete ∨
    f = .torn ∧ Record.size < (s'.value (target short s.found).1.key).length
  complete : f = .complete → ¬Overtaken short s.found → s'.newest = some c.normal
  /-- A record that was saved is not loaded. -/
  overtaken : f = .complete → Overtaken short s.found → s'.newest = (s.found .b).map (·.1)
  /-- A torn write leaves the other slot, whether its record was the newest or not. -/
  torn : f = .torn → s'.newest = (s.found (target short s.found).1.other).map (·.1)
  refused : f = .refused → s'.newest = s.newest
  /-- Where the newest record was read, nothing of it is lost. -/
  sound : (∀ x ∈ newest? (s.found .a) (s.found .b), short x.1.key = false) →
    s'.newest = if f = .complete then some c.normal else s.newest

lemma Wrote.complete {s s' : Flash} {c : Config}
    (h : Wrote s c (target short s.found).1 (target short s.found).2 .complete s') :
    (¬Overtaken short s.found → s'.newest = some c.normal) ∧
      (Overtaken short s.found → s'.newest = (s.found .b).map (·.1)) := by
  obtain ⟨hnew, hold⟩ := newest?_written (f := s.found) c.normal
  rw [Flash.newest, h.found, Fate.found]
  refine ⟨fun ho => by rw [hnew ho, Option.map_some], fun ho => ?_⟩
  rw [← hold ho, Option.map_map]
  rfl

lemma Wrote.torn {s s' : Flash} {c : Config} {slot : Slot} {seq : UInt32}
    (h : Wrote s c slot seq .torn s') : s'.newest = (s.found slot.other).map (·.1) := by
  rw [Flash.newest, h.found, Fate.found, newest?_lost, Option.map_map]
  rfl

lemma Wrote.refused {s s' : Flash} {c : Config} {slot : Slot} {seq : UInt32}
    (h : Wrote s c slot seq .refused s') : s'.newest = s.newest := by
  rw [Flash.newest, h.found, Fate.found, Function.update_eq_self, Flash.newest]

/-- Where the newest record is read, the next one goes to the other slot. -/
lemma target_sound {f : Slot → Found}
    (hread : ∀ x ∈ newest? (f .a) (f .b), short x.1.key = false) :
    ¬Overtaken short f ∧
      (f (target short f).1.other).map (·.1) = (newest? (f .a) (f .b)).map (·.2.1) := by
  have hseen := newest?_seen hread
  cases hf : newest? (f .a) (f .b) with
  | none =>
    obtain ⟨-, hb⟩ := newest?_eq_none hf
    have ht : target short f = (.a, 1) := by simp [target, next, hseen, hf]
    refine ⟨fun ho => ?_, by simp [ht, Slot.other, hb]⟩
    obtain ⟨d, n, hb', -⟩ := ho.newer
    exact Option.some_ne_none _ (hb'.symm.trans hb)
  | some x =>
    have hx : f x.1 = some x.2 := found_of_seen (hseen.trans hf)
    have ht : (target short f).1.other = x.1 := by simp [target, next, hseen, hf]
    refine ⟨fun ho => ?_, by simp [ht, hx]⟩
    exact Option.some_ne_none x ((hseen.trans hf).symm.trans ho.seen)

/-- **Saving with short reads**: the record goes to the slot that does not hold the newest record
seen. If the newest record there is was read, a complete write is of the configuration to load, and
any other one leaves what there was. If it was not, a torn write may take its place, and a complete
one may come before it. A save that ends without an error was complete, unless the write left more
bytes than a record has. -/
theorem save_reads_short (long : Bytes → Nat → Bytes → Prop) (short : Bytes → Bool)
    (value : Bytes → Bytes) (c : Config) :
    (save c).Ensures (blurred long short) (fun r s' =>
      (if c.complete then ∃ f, Blurred short { value } c r f s'
        else r = some .invalidConfig ∧ s' = { value }) ∧
      ∀ s ∈ [{ value }, s'], load.Ensures (surroundings (.faithful long))
        (fun l _ => l = s.newest) s) { value } := by
  have hload (s' : Flash) : ∀ s ∈ [{ value }, s'], load.Ensures (surroundings (.faithful long))
      (fun l _ => l = s.newest) s :=
    fun s _ => load_newest s (Rules.readsFit_faithful long)
  cases hc : c.complete with
  | false =>
    rw [save_incomplete hc]
    exact ⟨⟨rfl, rfl⟩, hload _⟩
  | true =>
    rw [save_eq hc]
    refine (readSlot_blurred { value } rfl .a).bind ?_
    rintro _ s₁ ⟨rfl, hs₁⟩
    rw [hs₁]
    refine (readSlot_blurred { value } rfl .b).bind ?_
    rintro _ s₂ ⟨rfl, hs₂⟩
    rw [hs₂]
    refine (write_blurred { value } hc _ _).mono ?_
    rintro r s' ⟨f, hwrote, herror⟩
    refine ⟨⟨f, hwrote.fates, herror, ?_, ?_, ?_, ?_, ?_⟩, hload s'⟩
    · rintro rfl
      exact hwrote.complete.1
    · rintro rfl
      exact hwrote.complete.2
    · rintro rfl
      exact hwrote.torn
    · rintro rfl
      exact hwrote.refused
    · intro hread
      obtain ⟨hfirst, hother⟩ := target_sound hread
      cases f with
      | complete => exact hwrote.complete.1 hfirst
      | torn => exact hwrote.torn.trans hother
      | refused => exact hwrote.refused

lemma write_goes {c : Config} {slot : Slot} {seq : UInt32} {post : Option StoreError → Flash → Prop}
    (h : (write c slot seq).Ensures (blurred long short) post s) :
    ∃ s', s'.found = Function.update s.found slot (Record.decode? (Record.encode c seq)) ∧
      post none s' := by
  have hlength := Record.length_encode c seq
  unfold write at h
  generalize Record.encode c seq = record at h hlength ⊢
  let t : Flash := { s.put slot.key record with fates := .complete :: s.fates }
  have hread : Blurs long short (.storedRead slot.key Record.size) t record t := by
    refine ⟨rfl, ?_⟩
    rw [if_neg fun ht => List.cons_ne_nil _ _ ht.1]
    refine .inr ((if_pos ?_).mpr ?_)
    · simp [t, hlength]
    · simp [t]
  have hwritten := h record.length t ⟨.complete, record, ⟨rfl, rfl⟩, rfl⟩
  change (ite _ _ _ : Program Hardware (Option StoreError)).Ensures _ _ _ at hwritten
  rw [if_neg (not_not_intro rfl)] at hwritten
  have hchecked := hwritten record t hread
  change (ite _ _ _ : Program Hardware (Option StoreError)).Ensures _ _ _ at hchecked
  rw [if_neg (not_not_intro rfl)] at hchecked
  exact ⟨t, found_put s slot _ _ _, hchecked () t rfl⟩

/-- A save that goes through, and is not loaded. -/
theorem saved_not_loaded : ¬∀ (short : Bytes → Bool) (value : Bytes → Bytes) (c : Config),
    c.complete = true → (save c).Ensures (blurred (fun _ _ _ => False) short)
      (fun r s' => r = none → s'.newest = some c.normal) { value } := by
  intro h
  have hc : (named (ascii "Saved")).complete = true := by decide +kernel
  have hd : (named (ascii "Newest")).complete = true := by decide +kernel
  have hne : (named (ascii "Saved")).normal ≠ (named (ascii "Newest")).normal := by decide +kernel
  generalize named (ascii "Saved") = c at hc hne
  generalize named (ascii "Newest") = d at hd hne
  let short : Bytes → Bool := fun k => k = Slot.b.key
  let value : Bytes → Bytes := fun k => if k = Slot.b.key then Record.encode d 2 else []
  have hsave := h short value c hc
  rw [save_eq hc] at hsave
  have hb : (value Slot.b.key).length = Record.size := by
    simp [value, Record.length_encode]
  -- the first slot is empty, and the record in the second comes back short
  have hsecond := hsave 0 _ ⟨rfl, rfl⟩ Record.size _ ⟨hb.symm, rfl⟩
  have hcut : Blurs (fun _ _ _ => False) short (.storedRead Slot.b.key Record.size) { value } []
      { value } := ⟨rfl, by simp [short]; decide⟩
  have hwrite := hsecond [] _ hcut () _ rfl
  obtain ⟨s', hfound, hnewest⟩ := write_goes _ hwrite
  rw [show next none none = (.a, 1) from rfl, Record.decode?_encode_complete hc] at hfound
  have ha : s'.found .a = some (c.normal, 1) := by rw [hfound, Function.update_self]
  have hb : s'.found .b = some (d.normal, 2) := by
    rw [hfound, Function.update_of_ne (by decide)]
    exact Record.decode?_encode_complete hd 2
  have hloaded : s'.newest = some d.normal := by
    rw [Flash.newest, ha, hb]
    rfl
  exact hne (Option.some.inj ((hnewest rfl).symm.trans hloaded))

end Store

end DoorControl
