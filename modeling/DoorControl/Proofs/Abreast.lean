import DoorControl.Proofs.Alike

/-!
Two programs side by side in surroundings that remember. What becomes of both surroundings after a
pair of calls may depend on what they keep, such as two stores in which each program reads back what
it has written. Programs that take no notice of what is kept are alike in the sense of `Alike`, and
stand beside each other in any such surroundings.
-/

namespace DoorControl

/-- Two surroundings that together are in states of `W`: which calls are counterparts, what may be
answered to them, and what may become of the state. -/
structure Tandem (I : Interface) (W : Type) where
  calls : I.Call → I.Call → Prop
  may : (c c' : I.Call) → W → I.Answer c → I.Answer c' → W → Prop

variable {I : Interface} {S : Pairing I} {α α' β β' U V W : Type} {T : Tandem I W}

/-- Environments that answer counterparts as the tandem may. -/
def Environment.Abreast (T : Tandem I W) (rel : U → V → W → Prop) (E : Environment I U)
    (E' : Environment I V) : Prop :=
  ∀ c c' u v w, T.calls c c' → rel u v w →
    ∃ w', T.may c c' w (E.respond c u).1 (E'.respond c' v).1 w' ∧
      rel (E.respond c u).2 (E'.respond c' v).2 w'

/-- Recording makes no difference, and the calls recorded are counterparts. -/
lemma Environment.Abreast.recorded {rel : U → V → W → Prop} {E : Environment I U}
    {E' : Environment I V} (hE : E.Abreast T rel E') :
    E.recorded.Abreast T (fun u v w => rel u.1 v.1 w ∧
      List.Forall₂ (fun x x' => T.calls x.call x'.call) u.2 v.2) E'.recorded := by
  rintro c c' u v w hc ⟨hrel, hrecords⟩
  obtain ⟨w', hr, hrel'⟩ := hE c c' u.1 v.1 w hc hrel
  exact ⟨w', hr, hrel', .cons hc hrecords⟩

/-- Alike calls are counterparts in the tandem, which answers them alike and keeps what it keeps. -/
def Tandem.Extends (T : Tandem I W) (S : Pairing I) : Prop :=
  ∀ c c', S.calls c c' →
    T.calls c c' ∧ ∀ w r r' w', T.may c c' w r r' w' → S.answers c c' r r' ∧ w' = w

namespace Program

/-- Each call has its counterpart, whatever may be answered, and both programs end in `post`. -/
def Abreast (T : Tandem I W) (post : α → β → W → Prop) : Program I α → Program I β → W → Prop
  | done a, done b, w => post a b w
  | call c next, call c' next', w =>
    T.calls c c' ∧ ∀ r r' w', T.may c c' w r r' w' → (next r).Abreast T post (next' r') w'
  | _, _, _ => False

lemma Abreast.bind {p : Program I α} {p' : Program I β} {M : α → β → W → Prop}
    {f : α → Program I α'} {f' : β → Program I β'} {post : α' → β' → W → Prop} {w : W}
    (h : p.Abreast T M p' w) (hf : ∀ a b w', M a b w' → (f a).Abreast T post (f' b) w') :
    (p >>= f).Abreast T post (p' >>= f') w := by
  induction p generalizing p' w with
  | done a =>
    cases p' with
    | done b => exact hf a b w h
    | call c' next' => exact h.elim
  | call c next ih =>
    cases p' with
    | done b => exact h.elim
    | call c' next' => exact ⟨h.1, fun r r' w' hr => ih r (h.2 r r' w' hr)⟩

/-- **Soundness**: environments that answer as the tandem may have both programs end as they must. -/
theorem Abreast.run {rel : U → V → W → Prop} {E : Environment I U} {E' : Environment I V}
    (hE : E.Abreast T rel E') {p : Program I α} {p' : Program I β} {post : α → β → W → Prop}
    {u : U} {v : V} {w : W} (h : p.Abreast T post p' w) (hrel : rel u v w) :
    ∃ w', post (p.run E u).1 (p'.run E' v).1 w' ∧ rel (p.run E u).2 (p'.run E' v).2 w' := by
  induction p generalizing p' u v w with
  | done a =>
    cases p' with
    | done b => exact ⟨w, h, hrel⟩
    | call c' next' => exact h.elim
  | call c next ih =>
    cases p' with
    | done b => exact h.elim
    | call c' next' =>
      obtain ⟨w', hr, hrel'⟩ := hE c c' u v w h.1 hrel
      obtain ⟨w'', hpost, hend⟩ := ih _ (h.2 _ _ w' hr) hrel'
      exact ⟨w'', hpost, hend⟩

/-! ### What is kept all along -/

/-- From any state in `K` both programs end in `post`, and in a state in `K` again. -/
def Along (T : Tandem I W) (K : W → Prop) (post : α → β → Prop) (p : Program I α)
    (p' : Program I β) : Prop :=
  ∀ w, K w → p.Abreast T (fun a b w' => post a b ∧ K w') p' w

variable {K : W → Prop}

lemma along_done {a : α} {b : β} {post : α → β → Prop} (h : post a b) :
    (done a : Program I α).Along T K post (done b) :=
  fun _ hw => ⟨h, hw⟩

lemma Along.bind {p : Program I α} {p' : Program I β} {M : α → β → Prop} {f : α → Program I α'}
    {f' : β → Program I β'} {post : α' → β' → Prop} (h : p.Along T K M p')
    (hf : ∀ a b, M a b → (f a).Along T K post (f' b)) :
    (p >>= f).Along T K post (p' >>= f') :=
  fun w hw => (h w hw).bind fun a b w' hab => hf a b hab.1 w' hab.2

lemma along_call {c c' : I.Call} {M : I.Answer c → I.Answer c' → Prop}
    {f : I.Answer c → Program I α} {f' : I.Answer c' → Program I β} {post : α → β → Prop}
    (hc : T.calls c c') (hK : ∀ w r r' w', K w → T.may c c' w r r' w' → M r r' ∧ K w')
    (hf : ∀ r r', M r r' → (f r).Along T K post (f' r')) :
    (call c f).Along T K post (call c' f') :=
  fun w hw => ⟨hc, fun r r' w' hr =>
    hf r r' (hK w r r' w' hw hr).1 w' (hK w r r' w' hw hr).2⟩

lemma along_ite {b b' : Prop} [Decidable b] [Decidable b'] {p q : Program I α} {p' q' : Program I β}
    {post : α → β → Prop} (hb : b' ↔ b) (hp : b → p.Along T K post p')
    (hq : ¬b → q.Along T K post q') :
    (if b then p else q).Along T K post (if b' then p' else q') := by
  by_cases h : b
  · rw [if_pos h, if_pos (hb.2 h)]
    exact hp h
  · rw [if_neg h, if_neg (mt hb.1 h)]
    exact hq h

/-- Programs that are alike keep whatever is kept. -/
lemma Alike.along {p : Program I α} {p' : Program I β} {post : α → β → Prop}
    (h : p.Alike S post p') (hT : T.Extends S) : p.Along T K post p' := by
  intro w hw
  induction p generalizing p' with
  | done a =>
    cases p' with
    | done b => exact ⟨h, hw⟩
    | call c' next' => exact h.elim
  | call c next ih =>
    cases p' with
    | done b => exact h.elim
    | call c' next' =>
      refine ⟨(hT c c' h.1).1, fun r r' w' hr => ?_⟩
      obtain ⟨hrr, rfl⟩ := (hT c c' h.1).2 w r r' w' hr
      exact ih r (h.2 r r' hrr)

end Program

end DoorControl
