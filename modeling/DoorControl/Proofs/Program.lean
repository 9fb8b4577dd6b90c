import Mathlib.Tactic.Common
import DoorControl.Hardware

/-!
What holds of a program whatever its surroundings answer: which calls it makes, what it gives, and
what becomes of surroundings that keep to rules of their own.
-/

namespace DoorControl

/-- What surroundings in states of `W` may answer to a call, and what may become of them. -/
structure Surroundings (I : Interface) (W : Type) where
  may : (c : I.Call) → W → I.Answer c → W → Prop

/-- The surroundings that answer anything and keep the exchanges, the newest first. -/
def Surroundings.history (I : Interface) : Surroundings I (List (Exchange I)) where
  may c h r h' := h' = ⟨c, r⟩ :: h

/-- Seen through `view`, an environment does only what the surroundings may do. -/
def Environment.Follows {I : Interface} {V W : Type} (E : Environment I W) (S : Surroundings I V)
    (view : W → V) : Prop :=
  ∀ c w, S.may c (view w) (E.respond c w).1 (view (E.respond c w).2)

/-- Two surroundings side by side, which have to agree on every answer. -/
def Surroundings.both {I : Interface} {V W : Type} (S : Surroundings I V) (T : Surroundings I W) :
    Surroundings I (V × W) where
  may c w r w' := S.may c w.1 r w'.1 ∧ T.may c w.2 r w'.2

/-- The surroundings of a program that is not alone: before each of its calls, others may have
changed them by `R`. -/
def Surroundings.amid {I : Interface} {W : Type} (S : Surroundings I W) (R : W → W → Prop) :
    Surroundings I W where
  may c w r w' := ∃ v, R w v ∧ S.may c v r w'

namespace Program

variable {I : Interface} {α β V W : Type} {S : Surroundings I W} {P Q : I.Call → Prop}

/-- Every way to run the program from a state ends in `post`. -/
def Ensures (S : Surroundings I W) (post : α → W → Prop) : Program I α → W → Prop
  | done a, w => post a w
  | call c next, w => ∀ r w', S.may c w r w' → (next r).Ensures S post w'

/-- The program makes calls in `P` only and gives a value in `post`. -/
def Confined (P : I.Call → Prop) (post : α → Prop) : Program I α → Prop
  | done a => post a
  | call c next => P c ∧ ∀ r, (next r).Confined P post

/-! ### Runs of any surroundings -/

@[simp] lemma ensures_done (post : α → W → Prop) (a : α) (w : W) :
    (done a : Program I α).Ensures S post w ↔ post a w := Iff.rfl

lemma ensures_call (post : α → W → Prop) (c : I.Call) (next : I.Answer c → Program I α)
    (w : W) :
    (call c next).Ensures S post w ↔ ∀ r w', S.may c w r w' → (next r).Ensures S post w' := Iff.rfl

@[simp] lemma ensures_bind (p : Program I α) (f : α → Program I β) (post : β → W → Prop) (w : W) :
    (p >>= f).Ensures S post w ↔ p.Ensures S (fun a w' => (f a).Ensures S post w') w := by
  induction p generalizing w with
  | done a => rfl
  | call c next ih => simp only [call_bind, ensures_call, ih]

@[simp] lemma ensures_ite (b : Prop) [Decidable b] (p q : Program I α) (post : α → W → Prop)
    (w : W) :
    (if b then p else q).Ensures S post w ↔ (b → p.Ensures S post w) ∧ (¬b → q.Ensures S post w) := by
  split <;> simp [*]

lemma Ensures.mono {p : Program I α} {post post' : α → W → Prop} {w : W}
    (h : p.Ensures S post w) (hpost : ∀ a w', post a w' → post' a w') : p.Ensures S post' w := by
  induction p generalizing w with
  | done a => exact hpost a w h
  | call c next ih => exact fun r w' hr => ih r (h r w' hr)

lemma Ensures.bind {p : Program I α} {f : α → Program I β} {mid : α → W → Prop}
    {post : β → W → Prop} {w : W} (h : p.Ensures S mid w)
    (hf : ∀ a w', mid a w' → (f a).Ensures S post w') : (p >>= f).Ensures S post w :=
  (ensures_bind p f post w).2 (h.mono hf)

lemma Ensures.and {p : Program I α} {post post' : α → W → Prop} {w : W} (h : p.Ensures S post w)
    (h' : p.Ensures S post' w) : p.Ensures S (fun a w' => post a w' ∧ post' a w') w := by
  induction p generalizing w with
  | done a => exact ⟨h, h'⟩
  | call c next ih => exact fun r w' hr => ih r (h r w' hr) (h' r w' hr)

lemma ensures_true (p : Program I α) (w : W) : p.Ensures S (fun _ _ => True) w := by
  induction p generalizing w with
  | done a => trivial
  | call c next ih => exact fun r w' _ => ih r w'

lemma Ensures.both {T : Surroundings I V} {p : Program I α} {post : α → W → Prop}
    {post' : α → V → Prop} {w : W} {v : V} (h : p.Ensures S post w) (h' : p.Ensures T post' v) :
    p.Ensures (S.both T) (fun a x => post a x.1 ∧ post' a x.2) (w, v) := by
  induction p generalizing w v with
  | done a => exact ⟨h, h'⟩
  | call c next ih => exact fun r x hr => ih r (h r x.1 hr.1) (h' r x.2 hr.2)

/-- A lowered program ends where the program itself does, if each call does what the surroundings of
the program may do. -/
lemma Ensures.lower {J : Interface} {T : Surroundings J V}
    {f : (c : I.Call) → Program J (I.Answer c)} {rel : W → V → Prop}
    (hf : ∀ c w v, rel w v → (f c).Ensures T (fun r v' => ∃ w', S.may c w r w' ∧ rel w' v') v)
    {p : Program I α} {post : α → W → Prop} {w : W} {v : V} (h : p.Ensures S post w)
    (hrel : rel w v) :
    (p.lower f).Ensures T (fun a v' => ∃ w', post a w' ∧ rel w' v') v := by
  induction p generalizing w v with
  | done a => exact ⟨w, h, hrel⟩
  | call c next ih =>
    refine (hf c w v hrel).bind ?_
    rintro r v' ⟨w', hr, hrel'⟩
    exact ih r (h r w' hr) hrel'

/-- Where a program comes to amid what others do is where it comes to after they did something. -/
lemma Ensures.amid {R : W → W → Prop} (htrans : ∀ u v w, R u v → R v w → R u w)
    {p : Program I α} {post : α → W → Prop} (hpost : ∀ a w w', R w w' → post a w → post a w')
    {w w' : W} (h : p.Ensures (S.amid R) post w) (hw : R w w') :
    p.Ensures (S.amid R) post w' := by
  cases p with
  | done a => exact hpost a w w' hw h
  | call c next =>
    rintro r w'' ⟨v, hv, hr⟩
    exact h r w'' ⟨v, htrans w w' v hw hv, hr⟩

lemma Ensures.reaches {R : W → W → Prop} (hrefl : ∀ w, R w w)
    (htrans : ∀ u v w, R u v → R v w → R u w) (hstep : ∀ c w, ∃ r w', S.may c w r w' ∧ R w w')
    {p : Program I α} {post : α → W → Prop} {w : W} (h : p.Ensures S post w) :
    ∃ a w', post a w' ∧ R w w' := by
  induction p generalizing w with
  | done a => exact ⟨a, w, h, hrefl w⟩
  | call c next ih =>
    obtain ⟨r, w', hr, hw⟩ := hstep c w
    obtain ⟨a, w'', ha, hw'⟩ := ih r (h r w' hr)
    exact ⟨a, w'', ha, htrans _ _ _ hw hw'⟩

/-- **Soundness**: an environment that follows the surroundings ends where they must. -/
theorem Ensures.run {E : Environment I V} {f : V → W} (hE : E.Follows S f)
    {p : Program I α} {post : α → W → Prop} {v : V} (h : p.Ensures S post (f v)) :
    post (p.run E v).1 (f (p.run E v).2) := by
  induction p generalizing v with
  | done a => exact h
  | call c next ih => exact ih _ (h _ _ (hE c v))

/-! ### Calls and results -/

@[simp] lemma confined_done (post : α → Prop) (a : α) :
    (done a : Program I α).Confined P post ↔ post a := Iff.rfl

@[simp] lemma confined_call (post : α → Prop) (c : I.Call) (next : I.Answer c → Program I α) :
    (call c next).Confined P post ↔ P c ∧ ∀ r, (next r).Confined P post := Iff.rfl

@[simp] lemma confined_bind (p : Program I α) (f : α → Program I β) (post : β → Prop) :
    (p >>= f).Confined P post ↔ p.Confined P fun a => (f a).Confined P post := by
  induction p with
  | done a => rfl
  | call c next ih => simp only [call_bind, confined_call, ih]

@[simp] lemma confined_ite (b : Prop) [Decidable b] (p q : Program I α) (post : α → Prop) :
    (if b then p else q).Confined P post ↔ (b → p.Confined P post) ∧ (¬b → q.Confined P post) := by
  split <;> simp [*]

lemma Confined.mono {p : Program I α} {post post' : α → Prop} (h : p.Confined P post)
    (hP : ∀ c, P c → Q c) (hpost : ∀ a, post a → post' a) : p.Confined Q post' := by
  induction p with
  | done a => exact hpost a h
  | call c next ih => exact ⟨hP c h.1, fun r => ih r (h.2 r)⟩

lemma Confined.and {p : Program I α} {post post' : α → Prop} (h : p.Confined P post)
    (h' : p.Confined Q post') : p.Confined (fun c => P c ∧ Q c) fun a => post a ∧ post' a := by
  induction p with
  | done a => exact ⟨h, h'⟩
  | call c next ih => exact ⟨⟨h.1, h'.1⟩, fun r => ih r (h.2 r) (h'.2 r)⟩

lemma Confined.left {p : Program I α} {post : α → Prop}
    (h : p.Confined (fun c => P c ∧ Q c) post) : p.Confined P post :=
  h.mono (fun _ => And.left) fun _ => id

lemma Confined.right {p : Program I α} {post : α → Prop}
    (h : p.Confined (fun c => P c ∧ Q c) post) : p.Confined Q post :=
  h.mono (fun _ => And.right) fun _ => id

lemma Confined.bind {p : Program I α} {f : α → Program I β} {mid : α → Prop} {post : β → Prop}
    (h : p.Confined P mid) (hf : ∀ a, mid a → (f a).Confined P post) :
    (p >>= f).Confined P post :=
  (confined_bind p f post).2 (h.mono (fun _ => id) hf)

/-- A lowered program makes no calls but those of what its calls are lowered to. -/
lemma confined_lower {J : Interface} {P : J.Call → Prop}
    {f : (c : I.Call) → Program J (I.Answer c)} (hf : ∀ c, (f c).Confined P fun _ => True)
    (p : Program I α) : (p.lower f).Confined P fun _ => True := by
  induction p with
  | done a => trivial
  | call c next ih => exact (hf c).bind fun r _ => ih r

lemma Confined.bind_eq {p : Program I α} {a : α} (h : p.Confined P (· = a)) (f : α → Program I β) :
    p >>= f = p >>= fun _ => f a := by
  induction p with
  | done b => exact congrArg f h
  | call c next ih => exact congrArg (call c) (funext fun r => ih r (h.2 r))

lemma Confined.within {p : Program I α} {f : α → Program I β} {mid : α → Prop} {post : β → Prop}
    (h : p.Confined P mid) (hP : ∀ c, P c → Q c) (hf : ∀ a, mid a → (f a).Confined Q post) :
    (p >>= f).Confined Q post :=
  (h.mono hP fun _ => id).bind hf

/-- What no call in `P` can end outlasts a program that makes no other calls. -/
lemma Confined.ensures {p : Program I α} {post : α → Prop} {K : W → Prop}
    (h : p.Confined P post)
    (hK : ∀ c w r w', P c → S.may c w r w' → K w → K w') {w : W} (hw : K w) :
    p.Ensures S (fun a w' => post a ∧ K w') w := by
  induction p generalizing w with
  | done a => exact ⟨h, hw⟩
  | call c next ih => exact fun r w' hr => ih r (h.2 r) (hK c w r w' h.1 hr hw)

lemma Confined.calls {p : Program I α} {post : α → Prop} (hp : p.Confined P post)
    {h : List (Exchange I)} (hh : ∀ x ∈ h, P x.call) :
    p.Ensures (.history I) (fun a h' => post a ∧ ∀ x ∈ h', P x.call) h := by
  refine hp.ensures (K := fun h' : List (Exchange I) => ∀ x ∈ h', P x.call) ?_ hh
  rintro c h r _ hc rfl hh
  exact List.forall_mem_cons.2 ⟨hc, hh⟩

/-- What the exchanges of a confined program add nothing to stays as it is. -/
lemma Confined.unchanged {p : Program I α} {post : α → Prop} (hp : p.Confined P post)
    {K : List (Exchange I) → β} (hK : ∀ c r h, P c → K (⟨c, r⟩ :: h) = K h)
    (h : List (Exchange I)) :
    p.Ensures (.history I) (fun a h' => post a ∧ K h' = K h) h := by
  refine hp.ensures (K := fun h' => K h' = K h) ?_ rfl
  rintro c h' r _ hc rfl hk
  rw [hK c r h' hc, hk]

end Program

attribute [simp] Program.ask

namespace Hardware

attribute [simp] ask pinOutput pinInput pinWrite pinRead startAccessPoint startStation stopRadio
  radioStatus request flush light storedLength storedRead storedWrite storedRemove restart deviceId
  post offer take log info warn error

end Hardware

end DoorControl
