import DoorControl.Board.Basic

/-!
Tasks that run in rounds at a steady pace. A task runs until it sleeps: in the middle of a round,
when the rest of the round is kept, or between two rounds. A task that is late runs its rounds one
after another until it has caught up.
-/

namespace DoorControl

/-- When a task is to run again. -/
inductive Wake
  | due (t : Clock)
  | never
deriving DecidableEq

/-- How the rounds of a task go: the program of a round whose time came at a clock, from what the
task keeps, and after which state it never runs again. -/
structure Rounds (σ : Type) where
  period : UInt32
  round : Clock → σ → Program Board σ
  parked : σ → Bool := fun _ => false

structure Task (σ : Type) where
  wake : Wake
  /-- When the time of the last round came, once the task has run. -/
  last : Option Clock := none
  /-- What is left of a round that was cut short. -/
  rest : Option (Program Board σ) := none

namespace Task

/-- A task that was just created. -/
def new {σ : Type} (now : Clock) : Task σ := { wake := .due now }

/-- How far a program came: to its end, or to a sleep with the rest still to do. -/
inductive Progress (α : Type)
  | finished (a : α)
  | asleep (ticks : UInt32) (rest : Program Board α)

/-- Runs a program up to its first sleep. -/
def advance {α W : Type} (E : Environment Board W) : Program Board α → W → Progress α × W
  | .done a, w => (.finished a, w)
  | .call (.sleep ticks) next, w => (.asleep ticks (next ()), w)
  | .call c next, w => advance E (next (E.respond c w).1) (E.respond c w).2

/-- When a sleep begun now ends; the longest never does. -/
def wakeAfter (now : Clock) (ticks : UInt32) : Wake :=
  if ticks = 0xFFFFFFFF then .never else .due (now + ticks)

/-- The time lies ahead of now. -/
def ahead (now t : Clock) : Bool := t ≠ now && (t - now).toNat < 0x80000000

variable {σ W : Type}

/-- Runs a round, whose time came at `last`, from where it stands, and up to `n` more. Gives the
task as it then sleeps and what it keeps. -/
def go (R : Rounds σ) (E : Environment Board W) (clock : W → Clock) (n : Nat) (last : Clock) (s : σ)
    (p : Program Board σ) (w : W) : Task σ × σ × W :=
  match advance E p w with
  | (.asleep ticks rest, w) =>
    ({ wake := wakeAfter (clock w) ticks, last := some last, rest := some rest }, s, w)
  | (.finished s, w) =>
    if R.parked s then ({ wake := .never, last := some last }, s, w)
    else
      match n with
      | 0 => ({ wake := .due (last + R.period), last := some (last + R.period) }, s, w)
      | n + 1 =>
        if ahead (clock w) (last + R.period) then
          ({ wake := .due (last + R.period), last := some (last + R.period) }, s, w)
        else
          go R E clock n (last + R.period) s (R.round (last + R.period) s) w

/-- What comes of giving a task its turn. -/
inductive Turn
  | absent
  | parked
  | waiting
  | ran (wake : Wake)

/-- Gives a task its turn. It makes up for at most as many rounds as periods have passed. -/
def turn (R : Rounds σ) (E : Environment Board W) (clock : W → Clock) (t : Task σ) (s : σ) (w : W) :
    Turn × Task σ × σ × W :=
  match t.wake with
  | .never => (.parked, t, s, w)
  | .due at_ =>
    if !Clock.reached (clock w) at_ then (.waiting, t, s, w)
    else
      let last := t.last.getD (clock w)
      let n := (clock w - last).toNat / R.period.toNat + 1
      let r := go R E clock n last s (t.rest.getD (R.round last s)) w
      (.ran r.1.wake, r)

end Task

end DoorControl
