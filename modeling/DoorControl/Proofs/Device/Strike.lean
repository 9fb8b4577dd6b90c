import Mathlib.Data.List.Forall2
import DoorControl.Proofs.Device.Life

/-!
The strike through the life of a device: its pin is written once at the start and once for each
command, and by nothing else.
-/

namespace DoorControl

open Bytes Program

namespace Strike

/-- What the strike drives its pin by, and what it was told last. -/
def held (s : Strike) : UInt8 × Bool × LockState := (s.pin, s.activeHigh, s.lock)

/-- A level holds the strike in a state: one level locks, and the other one unlocks. -/
def Holds (activeHigh : Bool) (l : LockState) (high : Bool) : Prop :=
  l = .locked ∧ high = activeHigh ∨ l = .unlocked ∧ high = !activeHigh

lemma holds_level (activeHigh : Bool) {l : LockState} (h : l = .locked ∨ l = .unlocked) :
    Holds activeHigh l (level activeHigh l) := by
  rcases h with rfl | rfl
  · exact .inl ⟨rfl, rfl⟩
  · exact .inr ⟨rfl, rfl⟩

/-- The levels written to the strike pin, the newest first. -/
def levels (h : List (Exchange Hardware)) : List Bool :=
  h.filterMap fun x =>
    match x.call with
    | .pinWrite pin high => if pin = Pin.strike then some high else none
    | _ => none

/-- The calls that write no pin. -/
def Idle : Hardware.Call → Prop
  | .pinWrite _ _ => False
  | _ => True

lemma idle_of_asks (c : Hardware.Call) (h : Device.Asks c) : Idle c := by
  cases c <;> trivial

lemma idle_of_contact (c : Hardware.Call) (h : Contact.Asks c) : Idle c := by
  cases c <;> trivial

lemma levels_of_idle {α : Type} {p : Program Hardware α} {post : α → Prop}
    (hp : p.Confined Idle post) (h : List (Exchange Hardware)) :
    p.Ensures (.history Hardware) (fun a h' => post a ∧ levels h' = levels h) h := by
  refine hp.unchanged (fun c r h' hc => List.filterMap_cons_none ?_) h
  cases c with
  | pinWrite => exact hc.elim
  | _ => rfl

variable (s : Strike) (now : Clock)

lemma drive_levels (l : LockState) (h : List (Exchange Hardware)) (hpin : s.pin = Pin.strike) :
    (s.drive l).Ensures (.history Hardware) (fun s' h' =>
      s' = { s with lock := l } ∧ levels h' = level s.activeHigh l :: levels h) h := by
  rintro _ _ rfl
  refine ⟨rfl, ?_⟩
  exact List.filterMap_cons_some (if_pos hpin)

lemma start_levels (activeHigh : Bool) (h : List (Exchange Hardware)) (hpin : s.pin = Pin.strike) :
    (s.start activeHigh now).Ensures (.history Hardware) (fun s' h' =>
      s'.held = (s.pin, activeHigh, .locked) ∧ levels h' = level activeHigh .locked :: levels h)
      h := by
  rintro _ _ rfl
  refine (drive_levels { s with activeHigh := activeHigh } .locked _ hpin).bind ?_
  rintro _ h' ⟨rfl, hl⟩
  refine (levels_of_idle ((s.contact.start_confined now).mono idle_of_contact fun _ => id) h').bind ?_
  rintro contact h'' ⟨-, hl'⟩
  exact ⟨rfl, by rw [hl', hl]; rfl⟩

lemma set_levels (l : LockState) (h : List (Exchange Hardware)) (hpin : s.pin = Pin.strike) :
    (s.set l now).Ensures (.history Hardware) (fun s' h' =>
      s'.held = (s.pin, s.activeHigh, l) ∧ levels h' = level s.activeHigh l :: levels h) h := by
  refine (s.drive_levels l h hpin).bind ?_
  rintro _ h' ⟨rfl, hl⟩
  rw [← hl]
  refine levels_of_idle ?_ h'
  exact (Hardware.postOrWarn_confined _ trivial fun _ => trivial).bind fun _ _ => rfl

lemma sample_idle : (s.sample now).Confined Idle (·.held = s.held) := by
  refine (s.contact.poll_confined now).within idle_of_contact fun r _ => ?_
  rcases r with ⟨_ | d, contact⟩
  · rfl
  · exact (Hardware.postOrWarn_confined _ trivial fun _ => trivial).bind fun _ _ => rfl

end Strike

namespace Device

variable {d : Device}

lemma tick_idle (now : Clock) :
    (d.tick now).Confined Strike.Idle (·.strike.held = d.strike.held) := by
  cases hr : d.rebootPending with
  | true =>
    rw [tick_pending now hr]
    rfl
  | false =>
    rw [tick_eq now hr]
    refine (d.strike.sample_idle now).bind fun strike hs => ?_
    refine (afterSample_confined now strike).mono Strike.idle_of_asks fun d' h => ?_
    have h : d'.strike = strike := congrArg Prod.fst h.1
    rw [h, hs]

lemma handle_idle {e : Event} (he : d.rebootPending = false → e.command? = none) :
    (d.handle e).Confined Strike.Idle (·.2.strike.held = d.strike.held) := by
  cases hr : d.rebootPending with
  | true =>
    rw [handle_pending hr]
    rfl
  | false =>
    rw [handle_eq hr]
    refine ((react_confined (he hr)).bind fun d' h => conclude_confined h).mono
      Strike.idle_of_asks ?_
    rintro r ⟨ha, -⟩
    have hs : r.2.strike = d.strike := congrArg Prod.fst ha
    rw [hs]

/-- The lock state that an operation commands; there is none once a restart is due. -/
def commanded? (d : Device) : Step → Option LockState
  | .handle e => if d.rebootPending then none else e.command?
  | _ => none

lemma act_idle {s : Step} (hs : d.commanded? s = none) :
    (d.act s).Confined Strike.Idle (·.strike.held = d.strike.held) := by
  cases s with
  | tick now => exact tick_idle now
  | handle e =>
    have he (hr : d.rebootPending = false) : e.command? = none := by simpa [commanded?, hr] using hs
    exact (handle_idle he).bind fun r hr => hr
  | requestLock l now => exact ⟨trivial, fun _ => rfl⟩
  | submit s now =>
    refine ⟨trivial, fun ok => ?_⟩
    cases ok with
    | true => exact ⟨trivial, fun _ => rfl⟩
    | false => exact (rfl : d.strike.held = d.strike.held)
  | requestReset now => exact ⟨trivial, fun _ => rfl⟩

/-- A command writes the pin once, to the level of the state commanded. -/
lemma act_levels {s : Step} {l : LockState} (hs : d.commanded? s = some l)
    (hpin : d.strike.pin = Pin.strike) (h : List (Exchange Hardware)) :
    (d.act s).Ensures (.history Hardware) (fun d' h' =>
      d'.strike.held = (d.strike.pin, d.strike.activeHigh, l) ∧
        Strike.levels h' = Strike.level d.strike.activeHigh l :: Strike.levels h) h := by
  cases s with
  | handle e =>
    simp only [commanded?, Option.ite_none_left_eq_some, Bool.not_eq_true] at hs
    change (d.handle e >>= _).Ensures _ _ _
    rw [handle_command hs.1 hs.2, Program.bind_assoc]
    refine (d.strike.set_levels d.now l h hpin).bind fun strike h' hd => ?_
    rw [← hd.1, ← hd.2]
    refine Strike.levels_of_idle ?_ h'
    refine ((conclude_confined rfl).mono Strike.idle_of_asks fun _ => id).bind fun r hr => ?_
    have hstrike : r.2.strike = strike := congrArg Prod.fst hr.1
    rw [pure_eq, confined_done, hstrike]
  | _ => cases hs

lemma startFrom_levels (now : Clock) (indicator : Indicator) (id : Bytes) (stored : Option Config)
    (h : List (Exchange Hardware)) (hpin : d.strike.pin = Pin.strike) :
    (d.startFrom now indicator id stored).Ensures (.history Hardware) (fun d' h' =>
      d'.strike.held = (Pin.strike, stored.any (·.lockActiveHigh), .locked) ∧
        Strike.levels h' =
          Strike.level (stored.any (·.lockActiveHigh)) .locked :: Strike.levels h) h := by
  have hpol : (stored.isSome && (stored.getD d.config).lockActiveHigh) =
      stored.any (·.lockActiveHigh) := by
    cases stored <;> rfl
  rw [← hpol, ← hpin]
  refine (d.strike.start_levels now _ h hpin).bind fun strike h' hs => ?_
  rw [← hs.1, ← hs.2]
  refine Strike.levels_of_idle ?_ h'
  refine ((startRole_confined now rfl).bind fun d' ha => refresh_confined now ha).mono
    Strike.idle_of_asks fun d' ha => ?_
  have hstrike : d'.strike = strike := congrArg Prod.fst ha.1
  rw [hstrike]

end Device

namespace Life

/-- The lock states that were commanded, the newest first, the one of the start the last. -/
def locks (l : Life) : List LockState := l.handled.filterMap Event.command? ++ [.locked]

lemma locks_named (l : Life) : ∀ x ∈ l.locks, x = .locked ∨ x = .unlocked := by
  intro x hx
  rcases List.mem_append.1 hx with hx | hx
  · obtain ⟨e, -, he⟩ := List.mem_filterMap.1 hx
    exact Event.command?_named he
  · exact .inl (List.mem_singleton.1 hx)

/-- The polarity that the loaded configuration gives; without one a low level locks. -/
def polarity (l : Life) : Bool := l.loaded.any (·.lockActiveHigh)

lemma locks_step (l : Life) (s : Device.Step) (d : Device) :
    locks { l with device := d, handled := l.handledAfter s } =
      (l.device.commanded? s).toList ++ l.locks := by
  cases s with
  | handle e =>
    cases hr : l.device.rebootPending
    · cases he : e.command? <;> simp [locks, handledAfter, Device.commanded?, hr, he]
    · simp [locks, handledAfter, Device.commanded?, hr]
  | _ => rfl

/-- The strike is as commanded, and so was each level written to its pin. -/
structure Commanded (l : Life) (h : List (Exchange Hardware)) : Prop where
  held : ∃ last, l.locks.head? = some last ∧ l.device.strike.held = (Pin.strike, l.polarity, last)
  levels : Strike.levels h = l.locks.map (Strike.level l.polarity)

lemma begin_commanded (t : Timing) (now : Clock) :
    (begin t now).Ensures (.history Hardware) Commanded [] := by
  have hi := ((Device.new t).indicator.start_confined now).mono Device.asks_of_indicator fun _ => id
  refine (Strike.levels_of_idle (hi.mono Strike.idle_of_asks fun _ => id) []).bind ?_
  rintro indicator h ⟨-, hlight⟩ deviceId _ rfl _ _ rfl
  have hload := Store.load_confined.mono Device.asks_of_store fun _ => id
  refine (Strike.levels_of_idle (hload.mono Strike.idle_of_asks fun _ => id) _).bind ?_
  rintro loaded h' ⟨-, hread⟩
  refine (Device.startFrom_levels now indicator deviceId loaded h' rfl).bind fun d h'' hd => ?_
  refine ⟨⟨.locked, rfl, hd.1⟩, ?_⟩
  have hnone : Strike.levels h' = [] := hread.trans hlight
  rw [hd.2, hnone]
  rfl

/-- Each operation keeps the strike in step with the commands. -/
lemma Commanded.step {l : Life} {h : List (Exchange Hardware)} (hl : l.Commanded h)
    (s : Device.Step) : (l.step s).Ensures (.history Hardware) Commanded h := by
  obtain ⟨last, hlast, hheld⟩ := hl.held
  cases hs : l.device.commanded? s with
  | none =>
    refine (Strike.levels_of_idle (Device.act_idle hs) h).bind fun d h' hd => ?_
    have hlocks := l.locks_step s d
    rw [hs, Option.toList_none, List.nil_append] at hlocks
    exact ⟨⟨last, by rw [hlocks, hlast], hd.1.trans hheld⟩, by rw [hd.2, hl.levels, hlocks]; rfl⟩
  | some x =>
    simp only [Strike.held, Prod.mk.injEq] at hheld
    obtain ⟨hpin, hpol, -⟩ := hheld
    refine (Device.act_levels hs hpin h).bind fun d h' hd => ?_
    have hlocks := l.locks_step s d
    rw [hs, Option.toList_some, List.singleton_append] at hlocks
    rw [hpin, hpol] at hd
    exact ⟨⟨x, by rw [hlocks]; rfl, hd.1⟩, by rw [hd.2, hl.levels, hlocks]; rfl⟩

/-- **The strike obeys**: after any operations, whatever the hardware answers, the levels written to
the strike pin are those that hold it locked at the start and then in the state of each command
handled before a restart was due, in the polarity of the configuration loaded at the start. The
strike is in the state commanded last, and so is its pin. The life that is told of is that of a
device which starts and goes through the operations. -/
theorem strike_obeys (t : Timing) (now : Clock) (steps : List Device.Step) :
    device <$> (begin t now >>= fun l => l.run steps) =
        ((Device.new t).start now >>= fun d => steps.foldlM Device.act d) ∧
    (begin t now >>= fun l => l.run steps).Ensures (.history Hardware) (fun l h =>
      List.Forall₂ (Strike.Holds l.polarity) l.locks (Strike.levels h) ∧
      l.device.strike.activeHigh = l.polarity ∧
      l.locks.head? = some l.device.strike.lock ∧
      ∃ high, (Strike.levels h).head? = some high ∧
        Strike.Holds l.polarity l.device.strike.lock high) [] := by
  refine ⟨lived_device t now steps, ?_⟩
  refine (begin_commanded t now).bind fun l h hl => ?_
  refine (run_ensures (fun l s h hl => hl.step s) steps hl).mono fun l h hl => ?_
  obtain ⟨last, hlast, hheld⟩ := hl.held
  simp only [Strike.held, Prod.mk.injEq] at hheld
  obtain ⟨-, hpol, rfl⟩ := hheld
  have hholds (x : LockState) (hx : x ∈ l.locks) :
      Strike.Holds l.polarity x (Strike.level l.polarity x) :=
    Strike.holds_level _ (l.locks_named x hx)
  rw [hl.levels]
  refine ⟨List.forall₂_map_right_iff.2 (List.forall₂_same.2 hholds), hpol, hlast, _, ?_,
    hholds _ (List.mem_of_head? hlast)⟩
  rw [List.head?_map, hlast]
  rfl

end Life

end DoorControl
