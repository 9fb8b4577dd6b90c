import DoorControl.Proofs.Program

/-!
Two programs side by side, as in two runs of one program on different values. They are alike when
each call of the one has its counterpart in the other, and counterpart answers keep them alike.
Surroundings that answer counterparts alike then lead both to the same end.
-/

namespace DoorControl

/-- Which calls are counterparts, and which answers to them. -/
structure Pairing (I : Interface) where
  calls : I.Call → I.Call → Prop
  answers : (c c' : I.Call) → I.Answer c → I.Answer c' → Prop

variable {I : Interface} {S : Pairing I} {α α' β β' V W : Type}

/-- An exchange and its counterpart. -/
def Pairing.exchanges (S : Pairing I) (x x' : Exchange I) : Prop :=
  S.calls x.call x'.call ∧ S.answers x.call x'.call x.answer x'.answer

/-- Environments that answer counterparts alike, and stay in states that belong together. -/
def Environment.Alike (S : Pairing I) (rel : V → W → Prop) (E : Environment I V)
    (E' : Environment I W) : Prop :=
  ∀ c c' v w, S.calls c c' → rel v w →
    S.answers c c' (E.respond c v).1 (E'.respond c' w).1 ∧
      rel (E.respond c v).2 (E'.respond c' w).2

/-- Recording makes no difference, and the records are counterparts. -/
lemma Environment.Alike.recorded {rel : V → W → Prop} {E : Environment I V} {E' : Environment I W}
    (hE : E.Alike S rel E') :
    E.recorded.Alike S (fun v w => rel v.1 w.1 ∧ List.Forall₂ S.exchanges v.2 w.2) E'.recorded := by
  rintro c c' v w hc ⟨hrel, hrecords⟩
  obtain ⟨hr, hrel'⟩ := hE c c' v.1 w.1 hc hrel
  exact ⟨hr, hrel', .cons ⟨hc, hr⟩ hrecords⟩

namespace Program

/-- Each call has its counterpart, whatever is answered, and the results are in `post`. -/
def Alike (S : Pairing I) (post : α → β → Prop) : Program I α → Program I β → Prop
  | done a, done b => post a b
  | call c next, call c' next' =>
    S.calls c c' ∧ ∀ r r', S.answers c c' r r' → (next r).Alike S post (next' r')
  | _, _ => False

lemma Alike.bind {p : Program I α} {p' : Program I β} {M : α → β → Prop}
    {f : α → Program I α'} {f' : β → Program I β'} {post : α' → β' → Prop}
    (h : p.Alike S M p') (hf : ∀ a b, M a b → (f a).Alike S post (f' b)) :
    (p >>= f).Alike S post (p' >>= f') := by
  induction p generalizing p' with
  | done a =>
    cases p' with
    | done b => exact hf a b h
    | call c' next' => exact h.elim
  | call c next ih =>
    cases p' with
    | done b => exact h.elim
    | call c' next' => exact ⟨h.1, fun r r' hr => ih r (h.2 r r' hr)⟩

lemma Alike.mono {p : Program I α} {p' : Program I β} {post post' : α → β → Prop}
    (h : p.Alike S post p') (hpost : ∀ a b, post a b → post' a b) : p.Alike S post' p' := by
  induction p generalizing p' with
  | done a =>
    cases p' with
    | done b => exact hpost a b h
    | call c' next' => exact h.elim
  | call c next ih =>
    cases p' with
    | done b => exact h.elim
    | call c' next' => exact ⟨h.1, fun r r' hr => ih r (h.2 r r' hr)⟩

lemma alike_ite {b b' : Prop} [Decidable b] [Decidable b'] {p q : Program I α} {p' q' : Program I β}
    {post : α → β → Prop} (hb : b' ↔ b) (hp : b → p.Alike S post p')
    (hq : ¬b → q.Alike S post q') :
    (if b then p else q).Alike S post (if b' then p' else q') := by
  by_cases h : b
  · rw [if_pos h, if_pos (hb.2 h)]
    exact hp h
  · rw [if_neg h, if_neg (mt hb.1 h)]
    exact hq h

/-- A program with calls that are their own counterparts is like itself. -/
lemma Confined.alike {P : I.Call → Prop} {p : Program I α} {post : α → Prop}
    (h : p.Confined P post)
    (hP : ∀ c, P c → S.calls c c ∧ ∀ r r', S.answers c c r r' → r' = r) :
    p.Alike S (fun a b => b = a ∧ post a) p := by
  induction p with
  | done a => exact ⟨rfl, h⟩
  | call c next ih =>
    refine ⟨(hP c h.1).1, fun r r' hr => ?_⟩
    obtain rfl := (hP c h.1).2 r r' hr
    exact ih r' (h.2 r')

lemma Confined.alike_bind {P : I.Call → Prop} {p : Program I α} {M : α → Prop}
    {f : α → Program I α'} {f' : α → Program I β} {post : α' → β → Prop} (h : p.Confined P M)
    (hP : ∀ c, P c → S.calls c c ∧ ∀ r r', S.answers c c r r' → r' = r)
    (hf : ∀ a, M a → (f a).Alike S post (f' a)) : (p >>= f).Alike S post (p >>= f') := by
  refine (h.alike hP).bind ?_
  rintro _ a ⟨rfl, ha⟩
  exact hf _ ha

/-- **Soundness**: environments that answer counterparts alike have both programs end alike. -/
theorem Alike.run {rel : V → W → Prop} {E : Environment I V} {E' : Environment I W}
    (hE : E.Alike S rel E') {p : Program I α} {p' : Program I β} {post : α → β → Prop}
    (h : p.Alike S post p') {v : V} {w : W} (hrel : rel v w) :
    post (p.run E v).1 (p'.run E' w).1 ∧ rel (p.run E v).2 (p'.run E' w).2 := by
  induction p generalizing p' v w with
  | done a =>
    cases p' with
    | done b => exact ⟨h, hrel⟩
    | call c' next' => exact h.elim
  | call c next ih =>
    cases p' with
    | done b => exact h.elim
    | call c' next' =>
      obtain ⟨hr, hrel'⟩ := hE c c' v w h.1 hrel
      exact ih _ (h.2 _ _ hr) hrel'

end Program

end DoorControl
