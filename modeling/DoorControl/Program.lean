/-!
Programs that call their surroundings. A program is either done or makes one call and goes on with
the answer. It can be run against any surroundings, and be lowered call by call to a program over
other calls.
-/

namespace DoorControl

/-- A set of calls and the type of each one's answer. -/
structure Interface where
  Call : Type
  Answer : Call → Type

/-- A program over the calls of an interface. -/
inductive Program (I : Interface) (α : Type) : Type
  | done (a : α)
  | call (c : I.Call) (next : I.Answer c → Program I α)

/-- One call with the answer it got. -/
structure Exchange (I : Interface) where
  call : I.Call
  answer : I.Answer call

/-- Surroundings in states of `W`: an answer to each call, and what becomes of the state. -/
structure Environment (I : Interface) (W : Type) where
  respond : (c : I.Call) → W → I.Answer c × W

namespace Program

variable {I J : Interface} {α β γ W : Type}

def bind : Program I α → (α → Program I β) → Program I β
  | done a, f => f a
  | call c next, f => call c fun r => (next r).bind f

instance : Monad (Program I) where
  pure := done
  bind := bind

@[simp] theorem pure_eq (a : α) : (pure a : Program I α) = done a := rfl

@[simp] theorem done_bind (a : α) (f : α → Program I β) : done a >>= f = f a := rfl

@[simp] theorem call_bind (c : I.Call) (next : I.Answer c → Program I α) (f : α → Program I β) :
    call c next >>= f = call c fun r => next r >>= f := rfl

theorem bind_done (p : Program I α) : p >>= done = p := by
  induction p with
  | done a => rfl
  | call c next ih => simp only [call_bind, ih]

theorem bind_assoc (p : Program I α) (f : α → Program I β) (g : β → Program I γ) :
    p >>= f >>= g = p >>= fun a => f a >>= g := by
  induction p with
  | done a => rfl
  | call c next ih => simp only [call_bind, ih]

instance : LawfulMonad (Program I) := LawfulMonad.mk' _
  (fun p => bind_done p)
  (fun _ _ => rfl)
  bind_assoc

/-- The program that makes one call and gives its answer. -/
def ask (c : I.Call) : Program I (I.Answer c) := call c done

@[simp] theorem ask_bind (c : I.Call) (f : I.Answer c → Program I α) : ask c >>= f = call c f := rfl

/-! ### Running -/

/-- Runs a program to its end. -/
def run (E : Environment I W) : Program I α → W → α × W
  | done a, w => (a, w)
  | call c next, w => (next (E.respond c w).1).run E (E.respond c w).2

@[simp] theorem run_done (E : Environment I W) (a : α) (w : W) : (done a).run E w = (a, w) := rfl

@[simp] theorem run_call (E : Environment I W) (c : I.Call) (next : I.Answer c → Program I α)
    (w : W) :
    (call c next).run E w = (next (E.respond c w).1).run E (E.respond c w).2 := rfl

@[simp] theorem run_bind (E : Environment I W) (p : Program I α) (f : α → Program I β) (w : W) :
    (p >>= f).run E w = (f (p.run E w).1).run E (p.run E w).2 := by
  induction p generalizing w with
  | done a => rfl
  | call c next ih => exact ih _ _

/-! ### Lowering -/

/-- Lowers a program: each call becomes a program over the calls of another interface. -/
def lower (f : (c : I.Call) → Program J (I.Answer c)) : Program I α → Program J α
  | done a => done a
  | call c next => f c >>= fun r => (next r).lower f

@[simp] theorem lower_done (f : (c : I.Call) → Program J (I.Answer c)) (a : α) :
    (done a).lower f = done a := rfl

theorem lower_bind (f : (c : I.Call) → Program J (I.Answer c)) (p : Program I α)
    (g : α → Program I β) : (p >>= g).lower f = p.lower f >>= fun a => (g a).lower f := by
  induction p with
  | done a => rfl
  | call c next ih => simp only [call_bind, lower, ih, bind_assoc]

end Program

/-! ### Recording -/

/-- The surroundings that also keep every exchange, the newest first. -/
def Environment.recorded {I : Interface} {W : Type} (E : Environment I W) :
    Environment I (W × List (Exchange I)) where
  respond c w := ((E.respond c w.1).1, (E.respond c w.1).2, ⟨c, (E.respond c w.1).1⟩ :: w.2)

end DoorControl
