import DoorControl.Proofs.Config.ShortReads

/-!
Erasing where removes may fail or be ignored. Each slot is emptied or stays as it was, so that what
there is to load afterwards is what there was, or nothing, or, where only the newest record is gone,
the one in the other slot.
-/

namespace DoorControl

open Bytes Program

namespace Flash

/-- Both slots are empty. -/
def Blank (s : Flash) : Prop := ∀ slot : Store.Slot, (s.value slot.key).length = 0

/-- Reads are faithful; removes go as `remove` allows. -/
def Rules.removing (long : Bytes → Nat → Bytes → Prop) (remove : Bool → Bool → Prop) : Rules where
  __ := Rules.faithful long
  remove := remove

lemma Rules.readsFit_removing (long : Bytes → Nat → Bytes → Prop) (remove : Bool → Bool → Prop) :
    (removing long remove).ReadsFit :=
  readsFit_faithful long

end Flash

namespace Store

open Flash

variable {R : Rules} (s : Flash)

/-- Where erasing succeeds, nothing is left, whatever became of the removes. -/
lemma erase_blank : erase.Ensures (surroundings R) (fun e s' => e = none → s'.Blank) s := by
  have hblank (s : Flash) (ha : s.value Slot.a.key = []) (hb : s.value Slot.b.key = []) :
      s.Blank := by
    intro slot
    cases slot
    · rw [ha, List.length_nil]
    · rw [hb, List.length_nil]
  -- one case for each pair of values that may be gone
  simp [erase, Slot.key_inj]
  refine ⟨fun _ => ⟨fun _ => hblank s, fun _ ha => hblank _ ?_ ?_⟩,
    fun _ => ⟨fun _ hb => hblank _ ?_ ?_, fun _ => hblank _ ?_ ?_⟩⟩
  all_goals simp [Slot.key_inj, *]

lemma load_blank {s : Flash} (h : s.Blank) :
    load.Ensures (surroundings R) (fun r _ => r = none) s := by
  have hread (slot : Slot) :
      (readSlot slot).Ensures (surroundings R) (fun r s' => r = none ∧ s' = s) s := by
    simp [readSlot, List.length_eq_zero_iff.1 (h slot)]
  refine (hread .a).bind ?_
  rintro _ _ ⟨rfl, rfl⟩
  refine (hread .b).bind ?_
  rintro _ _ ⟨rfl, rfl⟩
  rfl

/-- Each slot is emptied or stays as it was. -/
def Thinned (s s' : Flash) : Prop :=
  ∀ slot : Slot, s'.value slot.key = [] ∨ s'.value slot.key = s.value slot.key

lemma Thinned.remove {s t : Flash} (h : Thinned s t) (key : Bytes) : Thinned s (t.put key []) := by
  intro slot
  by_cases hkey : slot.key = key
  · exact .inl (by simp [hkey])
  · simpa [hkey] using h slot

/-- The calls that write nothing. -/
def Unwriting : Hardware.Call → Prop
  | .storedWrite _ _ => False
  | _ => True

lemma erase_thinned : erase.Ensures (surroundings R) (fun _ s' => Thinned s s') s := by
  have hunwriting : erase.Confined Unwriting fun _ => True := by
    simp [erase, Unwriting]
  refine (hunwriting.ensures ?_ fun _ => .inr rfl).mono fun _ _ => And.right
  rintro c t r t' hc hr ht
  cases c with
  | storedWrite key v => exact hc.elim
  | storedRemove key =>
    obtain ⟨gone, -, rfl⟩ := hr
    cases gone with
    | false => exact ht
    | true => exact ht.remove key
  | storedLength key =>
    obtain rfl : t' = t := hr.2
    exact ht
  | storedRead key room =>
    obtain rfl : t' = t := hr.2
    exact ht
  | _ =>
    obtain rfl : t' = t := hr
    exact ht

lemma Thinned.found {s s' : Flash} (h : Thinned s s') (slot : Slot) :
    s'.found slot = if s'.value slot.key = [] then none else s.found slot := by
  unfold Flash.found
  split
  · rename_i hempty
    rw [hempty]
    rfl
  · rename_i hleft
    rw [(h slot).resolve_left hleft]

lemma found_blank {s : Flash} (h : s.Blank) (slot : Slot) : s.found slot = none := by
  rw [found, List.length_eq_zero_iff.1 (h slot)]
  rfl

lemma newest_alone {s : Flash} {slot : Slot} (h : s.found slot.other = none) :
    s.newest = (s.found slot).map fun r => r.1 := by
  have halone : s.found = Function.update s.found slot.other none := by
    rw [← h, Function.update_eq_self]
  rw [newest, halone, newest?_lost, ← halone, Slot.other_other, Option.map_map]
  rfl

/-- What there is to load where slots were emptied: the newest record if it is still there, and the
other one if only that is. -/
lemma Thinned.newest {s s' : Flash} (h : Thinned s s') {slot : Slot} {c : Config} {n : UInt32}
    (hnew : newest? (s.found .a) (s.found .b) = some (slot, c, n)) :
    s'.newest = if s'.value slot.key ≠ [] then some c
      else if s'.value slot.other.key ≠ [] then (s.found slot.other).map fun r => r.1
      else none := by
  have hhere : s.found slot = some (c, n) := by
    rcases newest?_eq_some hnew with ⟨rfl, ha⟩ | ⟨rfl, hb⟩
    · exact ha
    · exact hb
  by_cases hslot : s'.value slot.key = []
  · have hgone : s'.found slot.other.other = none := by
      rw [Slot.other_other, h.found, if_pos hslot]
    rw [if_neg (not_not_intro hslot), newest_alone hgone, h.found, ite_not]
    split_ifs <;> rfl
  have hleft : s'.found slot = some (c, n) := by rw [h.found, if_neg hslot, hhere]
  rw [if_pos hslot]
  by_cases hother : s'.value slot.other.key = []
  · have hgone : s'.found slot.other = none := by rw [h.found, if_pos hother]
    rw [newest_alone hgone, hleft]
    rfl
  · have hsame : s'.found = s.found := by
      funext x
      by_cases hx : x = slot
      · rw [hx, hleft, hhere]
      · rw [Slot.eq_other_of_ne hx, h.found, if_neg hother]
    rw [Flash.newest, hsame, hnew]
    rfl

/-- **What an erase leaves to load**: without an error, nothing. In any case each slot is emptied or
as it was, and what is loaded is what there was to load, or nothing, or, exactly if the slot of the
newest record was emptied and the other one was not, what that one holds. -/
theorem erase_uncovers (long : Bytes → Nat → Bytes → Prop) (remove : Bool → Bool → Prop)
    (s : Flash) :
    (do return (← load, ← erase, ← load) : Program Hardware _).Ensures
      (surroundings (.removing long remove))
      (fun (before, e, after) s' => Thinned s s' ∧
        (e = none → after = none) ∧ (before = none → after = none) ∧
        ∀ slot c n, newest? (s.found .a) (s.found .b) = some (slot, c, n) →
          before = some c ∧
          after = if s'.value slot.key ≠ [] then before
            else if s'.value slot.other.key ≠ [] then (s.found slot.other).map fun r => r.1
            else none) s := by
  have hfit := Rules.readsFit_removing long remove
  refine (load_ensures s hfit).bind ?_
  rintro _ s ⟨rfl, rfl⟩
  refine ((erase_thinned s).and (erase_blank s)).bind ?_
  rintro e s' ⟨hthin, hblank⟩
  refine (load_ensures s' hfit).bind ?_
  rintro _ s' ⟨rfl, rfl⟩
  refine ⟨hthin, fun he => ?_, fun hbefore => ?_, fun slot c n hnew => ?_⟩
  · simp [newest, found_blank (hblank he), newest?]
  · obtain ⟨ha, hb⟩ := newest?_eq_none (Option.map_eq_none_iff.1 hbefore)
    simp [newest, hthin.found, ha, hb, newest?]
  · have hbefore : s.newest = some c := by rw [newest, hnew]; rfl
    exact ⟨hbefore, by rw [hthin.newest hnew, hbefore]⟩

/-- An older configuration may come back: the remove of its record fails, and that of the newest one
is done. -/
theorem older_comes_back : ¬∀ value : Bytes → Bytes,
    (do return (← load, ← erase, ← load) : Program Hardware _).Ensures
      (surroundings (.removing (fun _ _ _ => False) fun gone ok => gone = true → ok = true))
      (fun (before, e, after) _ =>
        (e ≠ none → after = before ∨ after = none) ∧ (e = none → after = none)) { value } := by
  intro h
  have hc : (named (ascii "Older")).complete = true := by decide +kernel
  have hd : (named (ascii "Newest")).complete = true := by decide +kernel
  have hne : (named (ascii "Older")).normal ≠ (named (ascii "Newest")).normal := by decide +kernel
  generalize named (ascii "Older") = c at hc hne
  generalize named (ascii "Newest") = d at hd hne
  let s : Flash := { value := fun k =>
    if k = Slot.b.key then Record.encode d 4 else Record.encode c 3 }
  have ha : s.found .a = some (c.normal, 3) := Record.decode?_encode_complete hc 3
  have hb : s.found .b = some (d.normal, 4) := Record.decode?_encode_complete hd 4
  have hbefore : s.newest = some d.normal := by
    rw [newest, ha, hb]
    rfl
  have hafter : (s.put Slot.b.key []).newest = some c.normal := by
    have hgone : (s.put Slot.b.key []).found Slot.a.other = none := rfl
    rw [newest_alone hgone]
    exact congrArg (Option.map _) ha
  have hfit := Rules.readsFit_removing (fun _ _ _ => False) fun gone ok => gone = true → ok = true
  have hloaded := load_goes s hfit ((ensures_bind _ _ _ _).1 (h s.value))
  -- the first remove fails, the second one is done
  have hremoved := hloaded false _ ⟨false, (absurd · Bool.false_ne_true), rfl⟩
    true _ ⟨true, fun _ => rfl, rfl⟩ () _ rfl
  have herror := (load_goes _ hfit ((ensures_bind _ _ _ _).1 hremoved)).1 (Option.some_ne_none _)
  rcases herror with hsame | hnone
  · exact hne (Option.some.inj (hafter.symm.trans (hsame.trans hbefore)))
  · exact Option.some_ne_none _ (hafter.symm.trans hnone)

end Store

end DoorControl
