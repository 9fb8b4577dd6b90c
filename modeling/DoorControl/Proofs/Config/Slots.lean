import Mathlib.Data.List.Forall2
import DoorControl.Proofs.Config.Flash

/-!
What the two slots hold after any saves and erases: the configuration saved last is the one to
load, whatever became of the writes after it.
-/

namespace DoorControl

open Bytes Program

namespace Store

open Flash

/-! ### The newer of two slots -/

lemma newer_succ (n : UInt32) : newer (n + 1) n = true := by
  have : n + 1 - n = 1 := by grind
  simp [newer, this]

lemma not_newer_succ (n : UInt32) : newer n (n + 1) = false := by
  have : n - (n + 1) = -1 := by grind
  simp [newer, this]

@[simp] lemma Slot.other_other (s : Slot) : s.other.other = s := by
  cases s <;> rfl

lemma Slot.other_ne (s : Slot) : s ≠ s.other := by
  cases s <;> decide

lemma Slot.eq_other_of_ne {s t : Slot} (h : s ≠ t) : s = t.other := by
  cases t with
  | a => cases s with
    | a => exact absurd rfl h
    | b => rfl
  | b => cases s with
    | a => rfl
    | b => exact absurd rfl h

lemma newest?_eq_some {a b : Found} {x : Slot × Config × UInt32} (h : newest? a b = some x) :
    x.1 = .a ∧ a = some x.2 ∨ x.1 = .b ∧ b = some x.2 := by
  unfold newest? at h
  split at h
  · split at h <;> obtain rfl := Option.some.inj h
    · exact .inr ⟨rfl, rfl⟩
    · exact .inl ⟨rfl, rfl⟩
  · obtain rfl := Option.some.inj h
    exact .inl ⟨rfl, rfl⟩
  · obtain rfl := Option.some.inj h
    exact .inr ⟨rfl, rfl⟩
  · cases h

lemma newest?_eq_none {a b : Found} (h : newest? a b = none) : a = none ∧ b = none := by
  unfold newest? at h
  split at h
  · split at h <;> cases h
  · cases h
  · cases h
  · exact ⟨rfl, rfl⟩

/-- A record that is written where the next one goes is the newest, whatever the slots held. -/
lemma newest?_next (f : Slot → Found) (d : Config) :
    let t := next (f .a) (f .b)
    let g := Function.update f t.1 (some (d, t.2))
    newest? (g .a) (g .b) = some (t.1, d, t.2) := by
  intro t g
  cases h : newest? (f .a) (f .b) with
  | none =>
    have ht : t = (.a, 1) := by simp [t, next, h]
    simp [g, ht, (newest?_eq_none h).2, newest?]
  | some x =>
    obtain ⟨s, c, n⟩ := x
    have ht : t = (s.other, n + 1) := by simp [t, next, h]
    rcases newest?_eq_some h with ⟨rfl, hf⟩ | ⟨rfl, hf⟩
    · simp [g, ht, hf, Slot.other, newest?, newer_succ]
    · simp [g, ht, hf, Slot.other, newest?, not_newer_succ]

/-- A slot holds a record, and what the other holds was written right before it. -/
structure Leads (f : Slot → Found) (s : Slot) (c : Config) (n : UInt32) : Prop where
  here : f s = some (c, n)
  there : ∀ d m, f s.other = some (d, m) → n = m + 1

/-- The slots hold a configuration as their newest, or nothing at all. -/
def Holds (f : Slot → Found) : Option Config → Prop
  | none => ∀ s, f s = none
  | some c => ∃ s n, Leads f s c n

variable {f : Slot → Found} {s : Slot} {c : Config} {n : UInt32}

lemma Leads.newest? (h : Leads f s c n) : newest? (f .a) (f .b) = some (s, c, n) := by
  obtain ⟨here, there⟩ := h
  cases s with
  | a =>
    rw [here]
    rcases hb : f .b with _ | ⟨d, m⟩
    · rfl
    · obtain rfl := there d m hb
      simp [Store.newest?, not_newer_succ]
  | b =>
    rw [here]
    rcases ha : f .a with _ | ⟨d, m⟩
    · rfl
    · obtain rfl := there d m ha
      simp [Store.newest?, newer_succ]

lemma Leads.next (h : Leads f s c n) : next (f .a) (f .b) = (s.other, n + 1) := by
  rw [Store.next, h.newest?]

lemma Leads.lost (h : Leads f s c n) : Leads (Function.update f s.other none) s c n where
  here := by rw [Function.update_of_ne s.other_ne, h.here]
  there d m hd := by simp at hd

lemma Leads.won (h : Leads f s c n) (d : Config) :
    Leads (Function.update f s.other (some (d, n + 1))) s.other d (n + 1) where
  here := by simp
  there e m he := by
    rw [Slot.other_other, Function.update_of_ne s.other_ne, h.here] at he
    cases he
    rfl

/-- The sequence numbers of two records differ by one, around 2^32. -/
lemma Leads.adjacent (h : Leads f s c n) {x y : Config} {k l : UInt32} (ha : f .a = some (x, k))
    (hb : f .b = some (y, l)) : k = l + 1 ∨ l = k + 1 := by
  obtain ⟨here, there⟩ := h
  cases s with
  | a =>
    cases here.symm.trans ha
    exact .inl (there y l hb)
  | b =>
    cases here.symm.trans hb
    exact .inr (there x k ha)

lemma Holds.newest {o : Option Config} (h : Holds f o) :
    (newest? (f .a) (f .b)).map (·.2.1) = o := by
  cases o with
  | none => simp [h .a, h .b, newest?]
  | some c =>
    obtain ⟨s, n, h⟩ := h
    rw [h.newest?]
    rfl

/-- A record written where the next one goes is held when its write is complete; otherwise what was
held stays. -/
lemma Holds.written {o : Option Config} (h : Holds f o) (d : Config) (fate : Fate) :
    let t := next (f .a) (f .b)
    Holds (Function.update f t.1 (fate.found (f t.1) (d, t.2)))
      (if fate = .complete then some d else o) := by
  intro t
  cases fate with
  | refused =>
    simp only [Fate.found, Function.update_eq_self]
    exact h
  | complete =>
    cases o with
    | none =>
      have ht : t = (.a, 1) := by simp [t, next, newest?, h .a, h .b]
      rw [ht]
      exact ⟨.a, 1, by simp [Fate.found], by simp [Slot.other, h .b]⟩
    | some c =>
      obtain ⟨s, n, h⟩ := h
      rw [show t = _ from h.next]
      exact ⟨_, _, h.won d⟩
  | torn =>
    cases o with
    | none =>
      intro x
      simp only [Fate.found, Function.update_apply]
      split
      · rfl
      · exact h x
    | some c =>
      obtain ⟨s, n, h⟩ := h
      rw [show t = _ from h.next]
      exact ⟨_, _, h.lost⟩

/-! ### Saves and erases in a row -/

inductive Operation
  | save (c : Config)
  | erase

def Operation.perform : Operation → Program Hardware (Option StoreError)
  | save c => Store.save c
  | erase => Store.erase

/-- An operation with the error it ended in, if any. -/
structure Outcome where
  operation : Operation
  error : Option StoreError

/-- Performs operations in turn, and gives their outcomes, the newest first, before `past`. -/
def perform (past : List Outcome) : List Operation → Program Hardware (List Outcome)
  | [] => pure past
  | op :: rest => do perform (⟨op, ← op.perform⟩ :: past) rest

/-- The configuration of the last save without an error since the last erase. -/
def saved? : List Outcome → Option Config
  | [] => none
  | ⟨.save c, none⟩ :: _ => some c
  | ⟨.save _, some _⟩ :: past => saved? past
  | ⟨.erase, _⟩ :: _ => none

/-- The configuration of the last save whose write was complete since the last erase, where each
save of a complete configuration made one of the writes. -/
def written? : List Outcome → List Fate → Option Config
  | [], _ => none
  | ⟨.erase, _⟩ :: _, _ => none
  | ⟨.save c, _⟩ :: past, fates =>
    if c.complete then
      match fates with
      | [] => none
      | .complete :: _ => some c
      | _ :: fates => written? past fates
    else written? past fates

/-- Of the save of a complete configuration, whether it ended without an error. -/
def Outcome.stored? (o : Outcome) : Option Bool :=
  match o.operation with
  | .save c => if c.complete then some (decide (o.error = none)) else none
  | .erase => none

/-- The saves of complete configurations that ended without an error are those whose write was
complete, unless a torn one was taken for that. -/
def Stored (past : List Outcome) (s : Flash) : Prop :=
  List.Forall₂ (fun (stored : Bool) f => (f = .complete → stored = true) ∧
    (stored = true → f = .complete ∨ f = .torn ∧ s.mistaken)) (past.filterMap Outcome.stored?) s.fates

/-- What holds after any outcomes. -/
structure Settled (past : List Outcome) (s : Flash) : Prop where
  holds : Holds s.found ((written? past s.fates).map Config.normal)
  complete : ∀ c ∈ written? past s.fates, c.complete
  stored : Stored past s
  saved : ¬s.mistaken → saved? past = written? past s.fates

variable {long : Bytes → Nat → Bytes → Prop} {past : List Outcome} {s : Flash}

lemma written?_save {c : Config} (hc : c.complete = true) (e : Option StoreError) (f : Fate)
    (fates : List Fate) : written? (⟨.save c, e⟩ :: past) (f :: fates) =
      if f = .complete then some c else written? past fates := by
  simp only [written?, if_pos hc]
  cases f <;> rfl

lemma Stored.mono {t : Flash} (h : Stored past s) (hfates : t.fates = s.fates)
    (hmistaken : s.mistaken → t.mistaken) : Stored past t := by
  unfold Stored
  rw [hfates]
  exact h.imp fun _ _ h => ⟨h.1, fun hs => (h.2 hs).imp_right (And.imp_right hmistaken)⟩

/-- A save of a complete configuration keeps the slots in step with its outcome. -/
lemma Settled.save {R : Rules} {c : Config} {f : Fate} {e : Option StoreError} {t : Flash}
    (h : Settled past s) (hc : c.complete = true) (ht : Saved R s c f e t) :
    Settled (⟨.save c, e⟩ :: past) t where
  holds := by
    have hholds := h.holds.written c.normal f
    simp only [← ht.found] at hholds
    rw [ht.fates, written?_save hc]
    cases f with
    | complete => exact hholds
    | _ => exact hholds
  complete := by
    rw [ht.fates, written?_save hc]
    split
    · simp [hc]
    · exact h.complete
  stored := by
    have hcons : (⟨.save c, e⟩ :: past : List Outcome).filterMap Outcome.stored? =
        decide (e = none) :: past.filterMap Outcome.stored? := by
      simp [Outcome.stored?, hc]
    unfold Stored
    rw [ht.fates, hcons]
    refine .cons ⟨fun hf => by simp [ht.done hf], fun he => ht.wrote (of_decide_eq_true he)⟩ ?_
    exact h.stored.imp fun _ _ h => ⟨h.1, fun hs => (h.2 hs).imp_right (And.imp_right ht.mistaken)⟩
  saved hm := by
    rw [ht.fates, written?_save hc, ← h.saved fun hs => hm (ht.mistaken hs)]
    cases e with
    | none =>
      obtain rfl : f = .complete := (ht.wrote rfl).resolve_right fun hd => hm hd.2
      rfl
    | some e =>
      rw [if_neg fun hf => nomatch ht.done hf]
      rfl

lemma Settled.perform (h : Settled past s) (op : Operation) :
    op.perform.Ensures (surroundings (.faithful long)) (fun e s' => Settled (⟨op, e⟩ :: past) s')
      s := by
  cases op with
  | erase =>
    refine (erase_ensures s long).mono ?_
    rintro _ s' ⟨rfl, hfates, hmistaken, hfound⟩
    refine ⟨fun slot => by rw [hfound], nofun, ?_, fun _ => rfl⟩
    exact h.stored.mono hfates hmistaken.mpr
  | save c =>
    by_cases hc : c.complete
    · refine (save_ensures s (Rules.readsFit_faithful long) hc).mono ?_
      rintro e s' ⟨f, hs'⟩
      exact h.save hc hs'
    · have hwritten : written? (⟨.save c, some .invalidConfig⟩ :: past) s.fates =
          written? past s.fates := by
        simp only [written?, if_neg hc]
      simp only [Operation.perform, save_incomplete (Bool.eq_false_iff.2 hc)]
      refine ⟨by rw [hwritten]; exact h.holds, by rw [hwritten]; exact h.complete, ?_, ?_⟩
      · simpa [Stored, Outcome.stored?, hc] using h.stored
      · rw [hwritten]
        exact h.saved

lemma perform_ensures (ops : List Operation) (h : Settled past s) :
    (perform past ops).Ensures (surroundings (.faithful long)) Settled s := by
  induction ops generalizing past s with
  | nil => exact h
  | cons op rest ih => exact (h.perform op).bind fun e s' h' => ih h'

/-! ### Main result -/

/-- Storage with both slots absent. -/
def vacant (value : Bytes → Bytes) : Flash :=
  (({ value := value } : Flash).put Slot.a.key []).put Slot.b.key []

/-- The numbers of two records are one apart, around 2^32. -/
def Adjacent (s : Flash) : Prop :=
  ∀ c d m n, s.found .a = some (c, m) → s.found .b = some (d, n) → m = n + 1 ∨ n = m + 1

lemma Holds.adjacent {o : Option Config} (h : Holds s.found o) : Adjacent s := by
  intro c d m n ha hb
  cases o with
  | none => cases (h .a).symm.trans ha
  | some x =>
    obtain ⟨_, _, h⟩ := h
    exact h.adjacent ha hb

/-- What was loaded after some outcomes is the configuration of the last save without an error since
the last erase, and no save ended without an error but by a complete write. -/
structure Reliable (past : List Outcome) (loaded : Option Config) (s : Flash) : Prop where
  loaded : Option.Rel (fun c d : Config => c.same d) loaded (saved? past)
  stored : past.filterMap Outcome.stored? = s.fates.map fun f => decide (f = Fate.complete)

lemma Settled.newest (h : Settled past s) :
    Option.Rel (fun c d : Config => c.same d ∧ c = d.normal) s.newest (written? past s.fates) := by
  rw [Flash.newest, h.holds.newest]
  cases hw : written? past s.fates with
  | none => exact .none
  | some c => exact .some ⟨Config.same_normal (h.complete c hw), rfl⟩

lemma Settled.newest_saved (h : Settled past s) (hm : ¬s.mistaken) :
    Option.Rel (fun c d : Config => c.same d) s.newest (saved? past) := by
  rw [h.saved hm]
  have hnewest := h.newest
  generalize s.newest = loaded at hnewest ⊢
  generalize written? past s.fates = written at hnewest ⊢
  cases hnewest with
  | none => exact .none
  | some h => exact .some h.1

lemma Settled.stored_eq (h : Settled past s) (hm : ¬s.mistaken) :
    past.filterMap Outcome.stored? = s.fates.map fun f => decide (f = Fate.complete) := by
  refine List.forall₂_eq_eq_eq ▸ List.forall₂_map_right_iff.2 (h.stored.imp fun b f hb => ?_)
  have hiff : b = true ↔ f = .complete := ⟨fun h => (hb.2 h).resolve_right fun h => hm h.2, hb.1⟩
  cases b with
  | true => exact (decide_eq_true (hiff.1 rfl)).symm
  | false => exact (decide_eq_false fun h => nomatch hiff.2 h).symm

/-- **What was written is loaded**: after any saves and erases, however each write went, the
configuration to load reads the same as that of the last save whose write was complete since the
last erase, in normal form, and without one there is none. A save whose write was complete ends without an error.
Unless a torn write looked like a complete one, no other save does, so that the configuration to
load is that of the last save without an error. The numbers of two records are one apart, around
2^32. -/
theorem load_saved (long : Bytes → Nat → Bytes → Prop) (value : Bytes → Bytes)
    (ops : List Operation) :
    (do return (← perform [] ops, ← load)).Ensures (surroundings (.faithful long))
      (fun (past, loaded) s =>
        Option.Rel (fun c d : Config => c.same d ∧ c = d.normal) loaded (written? past s.fates) ∧
        Stored past s ∧ Adjacent s ∧ (¬s.mistaken → Reliable past loaded s))
      (vacant value) := by
  have hvacant : Settled [] (vacant value) :=
    ⟨fun s => by cases s <;> rfl, nofun, .nil, fun _ => rfl⟩
  refine (perform_ensures ops hvacant).bind fun past s h => ?_
  refine (load_ensures s (Rules.readsFit_faithful long)).bind ?_
  rintro _ _ ⟨rfl, rfl⟩
  exact ⟨h.newest, h.stored, h.holds.adjacent, fun hm => ⟨h.newest_saved hm, h.stored_eq hm⟩⟩

/-! ### A torn write that looks complete -/

/-- A complete configuration with a name. -/
def named (name : Bytes) : Config where
  wifiSsid := .ofBytes (ascii "home")
  wifiPass := .ofBytes (ascii "secret")
  mqttHost := .ofBytes (ascii "broker")
  mqttPass := .ofBytes (ascii "pw")
  deviceId := .ofBytes (ascii "front1")
  deviceName := .ofBytes name

/-- A write may be torn into its record and one more byte, and read back as the record. -/
lemma save_mistaken {c : Config} (hc : c.complete = true) {value : Bytes → Bytes}
    {post : Option StoreError → Flash → Prop}
    (h : (save c).Ensures (surroundings (.faithful fun there room got => got = there.take room)) post
      (vacant value)) :
    ∃ s : Flash, s.newest = none ∧ post none s := by
  have hlength := Record.length_encode c 1
  rw [save_eq hc] at h
  have hwrite : (write c .a 1).Ensures _ post (vacant value) :=
    h (0 : Nat) _ ⟨rfl, rfl⟩ (0 : Nat) _ ⟨rfl, rfl⟩
  unfold write at hwrite
  generalize Record.encode c 1 = record at hwrite hlength
  have htorn : Record.decode? (record ++ [0]) = none := Record.decode?_eq_none (by simp [hlength])
  have hwritten := hwrite record.length _ ⟨.torn, record ++ [0], trivial, htorn, rfl⟩
  change (ite _ _ _ : Program Hardware (Option StoreError)).Ensures _ _ _ at hwritten
  rw [if_neg (not_not_intro rfl)] at hwritten
  have hback := hwritten record _ ⟨(if_neg (by simp [hlength])).mpr (by simp [← hlength]), rfl⟩
  change (ite _ _ _ : Program Hardware (Option StoreError)).Ensures _ _ _ at hback
  rw [if_neg (not_not_intro rfl)] at hback
  refine ⟨_, ?_, hback () _ rfl⟩
  have hb : (vacant value).found .b = none := rfl
  simp [Flash.newest, found_put, htorn, hb, newest?]

/-- A record with more bytes behind it is read back as the record, but not loaded: a save may end
without an error whose write was torn. -/
theorem torn_write_mistaken : ¬∀ (value : Bytes → Bytes) (ops : List Operation),
    (do return (← perform [] ops, ← load)).Ensures
      (surroundings (.faithful fun there room got => got = there.take room))
      (fun (past, loaded) s => Reliable past loaded s ∧ Adjacent s) (vacant value) := by
  intro h
  have hc : (named (ascii "Torn")).complete = true := by decide +kernel
  generalize named (ascii "Torn") = c at hc
  have hrun := h (fun _ => []) [.save c]
  simp only [perform, Operation.perform, ensures_bind] at hrun
  obtain ⟨s, hs, hrest⟩ := save_mistaken hc hrun
  have hfit := Rules.readsFit_faithful fun there room got => got = there.take room
  obtain ⟨⟨hloaded, -⟩, -⟩ := load_goes s hfit hrest
  rw [hs] at hloaded
  cases hloaded

end Store

end DoorControl
