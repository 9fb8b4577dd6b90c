import Mathlib.Algebra.BigOperators.Group.List.Basic
import Mathlib.Algebra.Order.Ring.Nat
import Mathlib.Data.List.TakeWhile
import DoorControl.Button
import DoorControl.Proofs.Program

/-!
What the reset button requests, told from all its ticks. The button itself keeps only a sum of
milliseconds that stays at the largest word, and whether the queue took the request of this press.
-/

namespace DoorControl

open Program

namespace Button

/-- A tick: whether the button was pressed, the milliseconds since the last tick, the time, and what
was posted, each event with whether the queue took it. -/
structure Tick where
  pressed : Bool
  gap : UInt32
  time : Clock
  posts : List (Event × Bool) := []

namespace Tick

def input (x : Tick) : Bool × UInt32 × Clock := (x.pressed, x.gap, x.time)

/-- The newest tick posts an event. -/
def noted (e : Event) (ok : Bool) : List Tick → List Tick
  | [] => []
  | x :: older => { x with posts := x.posts ++ [(e, ok)] } :: older

/-- Surroundings that answer anything and keep the ticks with what they post, the newest first. -/
def surroundings : Surroundings Hardware (List Tick) where
  may
    | .post e, w, ok, w' => w' = noted e ok w
    | _, w, _, w' => w' = w

/-- The ticks of the present press: those since the button was last seen released. -/
def press (w : List Tick) : List Tick := w.takeWhile (·.pressed)

/-- How long the present press was summed up, however long that is. -/
def total (w : List Tick) : Nat := ((press w).map (·.gap.toNat)).sum

/-- How many posts of the present press the queue took. -/
def accepted (w : List Tick) : Nat := ((press w).flatMap (·.posts)).countP (·.2)

variable {x : Tick} {older : List Tick}

lemma press_cons (h : x.pressed = true) : press (x :: older) = x :: press older :=
  List.takeWhile_cons_of_pos h

lemma press_released (h : x.pressed = false) : press (x :: older) = [] :=
  List.takeWhile_cons_of_neg (by simp [h])

lemma total_cons (h : x.pressed = true) : total (x :: older) = x.gap.toNat + total older := by
  simp [total, press_cons h]

lemma total_released (h : x.pressed = false) : total (x :: older) = 0 := by
  simp [total, press_released h]

lemma accepted_cons (h : x.pressed = true) :
    accepted (x :: older) = x.posts.countP (·.2) + accepted older := by
  simp [accepted, press_cons h]

lemma accepted_released (h : x.pressed = false) : accepted (x :: older) = 0 := by
  simp [accepted, press_released h]

end Tick

open Tick

variable {W : Type} {S : Surroundings Hardware W} {b : Button} {hold : UInt32} {x y : Tick}
  {older w : List Tick}

/-- The request of a reset. -/
def request (now : Clock) : Event :=
  { kind := .resetRequested, time := now, arg := Event.fromButton }

/-- A request is due by the ticks: the button is pressed, the press was summed up for long enough,
and the queue has taken no request of this press before. -/
def Due (hold : UInt32) (x : Tick) (older : List Tick) : Prop :=
  x.pressed = true ∧ hold.toNat ≤ min (total (x :: older)) (2 ^ 32 - 1) ∧ accepted older = 0

instance : Decidable (Due hold x older) := inferInstanceAs (Decidable (_ ∧ _ ∧ _))

/-- Each tick posted the request exactly if it was due, and nothing else. -/
def Exact (hold : UInt32) : List Tick → Prop
  | [] => True
  | x :: older =>
    x.posts.map Prod.fst = (if Due hold x older then [request x.time] else []) ∧ Exact hold older

/-- Whatever the queue answers, `post` holds after ticks with these inputs. -/
def Throughout (post : Button → List Tick → Prop) :
    List (Bool × UInt32 × Clock) → Button → List Tick → Prop
  | [], b, w => post b w
  | (pressed, gap, now) :: inputs, b, w => (b.tick pressed gap now).Ensures surroundings
      (Throughout post inputs) ({ pressed, gap, time := now } :: w)

/-! ### One tick -/

lemma toNat_addSaturating (a b : UInt32) :
    (addSaturating a b).toNat = min (a.toNat + b.toNat) (2 ^ 32 - 1) := by
  have hmax : (0xFFFFFFFF : UInt32).toNat = 2 ^ 32 - 1 := rfl
  have hb : b.toNat ≤ (0xFFFFFFFF : UInt32).toNat := Nat.le_of_lt_succ b.toNat_lt
  have hsub := UInt32.toNat_sub_of_le _ _ (UInt32.le_iff_toNat_le.2 hb)
  unfold addSaturating
  split
  next h =>
    rw [UInt32.lt_iff_toNat_lt] at h
    omega
  next h =>
    rw [UInt32.lt_iff_toNat_lt] at h
    rw [UInt32.toNat_add]
    omega

lemma tick_ensures (hlog : ∀ line v r v', S.may (.log line) v r v' → v' = v)
    {post : Button → W → Prop} {pressed : Bool} {dt : UInt32} {now : Clock} {v : W}
    (hreleased : pressed = false → post b.released v)
    (hfired : pressed = true → b.fired = true → post { b with pressing := true } v)
    (hshort : pressed = true → b.fired = false → (b.held dt).elapsed < b.hold → post (b.held dt) v)
    (hdue : pressed = true → b.fired = false → ¬(b.held dt).elapsed < b.hold →
      ∀ ok v', S.may (.post (request now)) v ok v' → post { b.held dt with fired := ok } v') :
    (b.tick pressed dt now).Ensures S post v := by
  unfold tick
  refine (ensures_ite _ _ _ _ _).2 ⟨fun hp => hreleased (by simpa using hp), fun hp => ?_⟩
  have hp : pressed = true := by simpa using hp
  refine (ensures_ite _ _ _ _ _).2 ⟨hfired hp, fun hf => ?_⟩
  have hf : b.fired = false := by simpa using hf
  refine (ensures_ite _ _ _ _ _).2 ⟨hshort hp hf, fun hlt => ?_⟩
  intro ok v' hpost
  have hdone := hdue hp hf hlt ok v' hpost
  cases ok with
  | true =>
    intro r v'' hsame
    rwa [hlog _ _ _ _ hsame]
  | false =>
    intro r v'' hsame
    rw [hlog _ _ _ _ hsame]
    -- a refused request leaves the latch as it was
    rwa [← hf] at hdone

/-! ### The button and its ticks -/

/-- After any ticks: the button knows of the present press how long it was, unless its request was
taken, and each tick so far posted what was due. -/
structure Kept (hold : UInt32) (inputs : List (Bool × UInt32 × Clock)) (b : Button)
    (w : List Tick) : Prop where
  inputs : (w.map (·.input)).reverse = inputs
  setting : b.hold = hold
  pressing : b.pressing = !(press w).isEmpty
  fired : accepted w = b.fired.toNat
  elapsed : b.fired = false → b.elapsed.toNat = min (total w) (2 ^ 32 - 1)
  exact : Exact hold w

variable {inputs : List (Bool × UInt32 × Clock)}

lemma Kept.held_elapsed (h : Kept hold inputs b w) (hf : b.fired = false) (gap : UInt32) :
    (b.held gap).elapsed.toNat = min (gap.toNat + total w) (2 ^ 32 - 1) := by
  have helapsed := h.elapsed hf
  rw [held, toNat_addSaturating]
  omega

/-- A button goes by the sum exactly when a request is due. -/
lemma Kept.due_iff (h : Kept hold inputs b w) (hx : x.pressed = true) (hf : b.fired = false) :
    Due hold x w ↔ ¬(b.held x.gap).elapsed < b.hold := by
  have hnone : accepted w = 0 := h.fired.trans (by rw [hf]; rfl)
  rw [Due, total_cons hx, UInt32.lt_iff_toNat_lt, h.held_elapsed hf, h.setting, Nat.not_lt]
  simp [hx, hnone]

lemma Kept.pressed (h : Kept hold inputs b w) {i : Bool × UInt32 × Clock} {b' : Button}
    (hi : x.input = i) (hx : x.pressed = true)
    (hsetting : b'.hold = b.hold) (hpressing : b'.pressing = true)
    (hfired : x.posts.countP (·.2) + b.fired.toNat = b'.fired.toNat)
    (helapsed : b'.fired = false → b'.elapsed = (b.held x.gap).elapsed ∧ b.fired = false)
    (hposts : x.posts.map Prod.fst = if Due hold x w then [request x.time] else []) :
    Kept hold (inputs ++ [i]) b' (x :: w) where
  inputs := by simp [← h.inputs, ← hi]
  setting := hsetting.trans h.setting
  pressing := by simp [hpressing, press_cons hx]
  fired := by rw [accepted_cons hx, h.fired, hfired]
  elapsed := fun hf => by
    obtain ⟨hsum, hf⟩ := helapsed hf
    rw [hsum, h.held_elapsed hf, total_cons hx]
  exact := ⟨hposts, h.exact⟩

lemma Kept.tick (h : Kept hold inputs b w) (pressed : Bool) (gap : UInt32) (now : Clock) :
    (b.tick pressed gap now).Ensures surroundings (Kept hold (inputs ++ [(pressed, gap, now)]))
      ({ pressed, gap, time := now } :: w) := by
  refine tick_ensures (fun _ _ _ _ hsame => hsame) ?released ?fired ?short ?due
  case released =>
    rintro rfl
    refine ⟨by simp [← h.inputs, input], h.setting, by simp [press_released, released],
      by simp [accepted_released, released], fun _ => by simp [total_released, released], ?_,
      h.exact⟩
    exact (if_neg fun hdue => Bool.false_ne_true hdue.1).symm
  case fired =>
    rintro rfl hf
    have hspent : accepted w ≠ 0 := by rw [h.fired, hf]; decide
    refine h.pressed rfl rfl rfl rfl (Nat.zero_add _) (fun hnot => ?_) ?_
    · exact absurd (hf.symm.trans hnot) (by decide)
    · exact (if_neg fun hdue => hspent hdue.2.2).symm
  case short =>
    rintro rfl hf hlt
    refine h.pressed rfl rfl rfl rfl (Nat.zero_add _) (fun _ => ⟨rfl, hf⟩) (if_neg ?_).symm
    exact mt (h.due_iff rfl hf).1 (not_not.2 hlt)
  case due =>
    rintro rfl hf hlt ok _ rfl
    refine h.pressed rfl rfl rfl rfl ?_ (fun _ => ⟨rfl, hf⟩) ?_
    · rw [hf]
      cases ok <;> rfl
    · refine (if_pos ?_).symm
      exact (h.due_iff rfl hf).2 hlt

lemma Kept.throughout (h : Kept hold inputs b w) (more : List (Bool × UInt32 × Clock)) :
    b.Throughout (Kept hold (inputs ++ more)) more w := by
  induction more generalizing inputs b w with
  | nil => simpa [Throughout] using h
  | cons i more ih =>
    refine (h.tick i.1 i.2.1 i.2.2).mono fun b' w' h' => ?_
    simpa using ih h'

lemma Throughout.mono {post post' : Button → List Tick → Prop}
    (hpost : ∀ b w, post b w → post' b w) (more : List (Bool × UInt32 × Clock))
    (h : b.Throughout post more w) : b.Throughout post' more w := by
  induction more generalizing b w with
  | nil => exact hpost b w h
  | cons i more ih => exact Ensures.mono h fun b' w' h' => ih h'

/-! ### The requests -/

lemma Exact.suffix {v : List Tick} (hv : v <:+ w) (h : Exact hold w) : Exact hold v := by
  induction w with
  | nil => rwa [List.suffix_nil.1 hv]
  | cons x older ih =>
    rcases List.suffix_cons_iff.1 hv with rfl | hv
    · exact h
    · exact ih hv h.2

/-- Where each request was due, the queue took at most one in a press. -/
lemma Exact.accepted_le (h : Exact hold w) : accepted w ≤ 1 := by
  induction w with
  | nil => exact Nat.zero_le 1
  | cons x older ih =>
    cases hx : x.pressed with
    | false => exact (accepted_released hx).trans_le (Nat.zero_le 1)
    | true =>
      have hposts := congrArg List.length h.1
      have hcount : x.posts.countP (·.2) ≤ x.posts.length := List.countP_le_length
      have hpast := ih h.2
      rw [accepted_cons hx]
      rw [List.length_map] at hposts
      split at hposts
      next hdue =>
        rw [hdue.2.2]
        simp only [List.length_singleton] at hposts
        omega
      next =>
        simp only [List.length_nil] at hposts
        omega

/-- A request that no queue took is due again while the button stays pressed. -/
lemma Due.again (h : Due hold x older) (hy : y.pressed = true)
    (hnone : accepted (x :: older) = 0) : Due hold y (x :: older) := by
  have hlong := h.2.1
  refine ⟨hy, ?_, hnone⟩
  rw [total_cons hy]
  omega

/-- **One reset a press**: whatever the ticks are and whatever the queue takes, a tick requests a
reset exactly if the button has been pressed for long enough, summed up without bound since it was
last seen released, and the queue has taken no request of that press. So it takes at most one of
each press, a request that it refused is made again at the next tick of that press, and a button
that was released is as it was at first. -/
theorem resets_once_a_press (hold : UInt32) (inputs : List (Bool × UInt32 × Clock)) :
    ({ hold } : Button).Throughout (fun b w =>
      (w.map (·.input)).reverse = inputs ∧
      Exact hold w ∧
      (∀ v, v <:+ w → accepted v ≤ 1) ∧
      (∀ y x older, y :: x :: older <:+ w → y.pressed = true → Due hold x older →
        accepted (x :: older) = 0 → y.posts.map Prod.fst = [request y.time]) ∧
      (press w = [] → b = { hold })) inputs [] := by
  have hstart : Kept hold [] { hold } [] := ⟨rfl, rfl, rfl, rfl, fun _ => rfl, trivial⟩
  refine Throughout.mono (fun b w h => ⟨h.inputs, h.exact, ?_, ?_, ?_⟩) _ (hstart.throughout inputs)
  · exact fun v hv => (h.exact.suffix hv).accepted_le
  · intro y x older hw hy hdue hnone
    have hposts := (h.exact.suffix hw).1
    rwa [if_pos (hdue.again hy hnone)] at hposts
  · intro hpress
    obtain ⟨setting, pressing, elapsed, fired⟩ := b
    have hfired : fired = false := by simpa [accepted, hpress, eq_comm] using h.fired
    have helapsed : elapsed.toNat = 0 := by simpa [total, hpress] using h.elapsed hfired
    have hpressing : pressing = false := by simpa [hpress] using h.pressing
    rw [hfired, hpressing, UInt32.toNat_inj.1 (helapsed.trans UInt32.toNat_zero.symm), ← h.setting]

end Button

end DoorControl
