import DoorControl.Proofs.Config.Flash
import DoorControl.Proofs.Device.Standing
import DoorControl.Proofs.Device.Strike

/-!
A start from what storage holds: the device locks the door in the polarity of the configuration that
it loads, and asks the radio for one network, the configured one or its own.
-/

namespace DoorControl

open Bytes Program

/-! ### Roles of the radio -/

namespace Link

/-- The radio is asked to open a network or to join one. -/
def takesRole : Hardware.Call → Bool
  | .startAccessPoint _ _ | .startStation _ _ => true
  | _ => false

/-- The roles that the radio was asked to take, the newest first. -/
def roles (h : List (Exchange Hardware)) : List Hardware.Call :=
  (h.map Exchange.call).filter takesRole

/-- The role that goes with what is loaded. -/
def roleOf : Option Config → Hardware.Call
  | none => .startAccessPoint setupSsid setupPass
  | some c => .startStation c.wifiSsid.view c.wifiPass.view

/-- The calls that ask for no role. -/
def Roleless (c : Hardware.Call) : Prop := takesRole c = false

variable {α : Type} {h : List (Exchange Hardware)}

lemma roles_cons {c : Hardware.Call} (hc : Roleless c) (r : Hardware.Answer c) :
    roles (⟨c, r⟩ :: h) = roles h := by
  simp only [Roleless] at hc
  simp [roles, hc]

lemma roles_of_roleless {p : Program Hardware α} {post : α → Prop} (hp : p.Confined Roleless post)
    (h : List (Exchange Hardware)) :
    p.Ensures (.history Hardware) (fun a h' => post a ∧ roles h' = roles h) h :=
  hp.unchanged (fun _ r _ hc => roles_cons hc r) h

variable (s : Link) (t : Timing) (now : Clock)

lemma transition_roleless (next : LinkState) :
    (s.transition next now).Confined Roleless (· = { s with state := next }) := by
  unfold transition
  split
  · rename_i he
    subst he
    rfl
  · exact (Hardware.postOrWarn_confined (P := Roleless) _ rfl fun _ => rfl).bind fun _ _ => rfl

lemma fail_roleless (why : Failure) : (s.fail t now why).Confined Roleless fun _ => True := by
  refine ⟨rfl, fun _ => ⟨rfl, fun _ => ?_⟩⟩
  exact (transition_roleless _ now _).mono (fun _ => id) fun _ _ => trivial

lemma connect_roles : (s.connect t now).Ensures (.history Hardware)
    (fun _ h' => roles h' = .startStation s.ssid s.pass :: roles h) h := by
  refine (roles_of_roleless (transition_roleless _ now _) h).bind ?_
  rintro _ h' ⟨rfl, hroles⟩ ok _ rfl
  have hrole : roles (⟨.startStation s.ssid s.pass, ok⟩ :: h') =
      .startStation s.ssid s.pass :: roles h := by
    rw [← hroles]
    rfl
  cases ok with
  | true =>
    rintro _ _ rfl
    exact hrole
  | false =>
    refine (roles_of_roleless (fail_roleless _ t now _) _).mono ?_
    rintro _ h'' ⟨-, hsame⟩
    exact hsame.trans hrole

lemma start_roles (hs : s.state = .uninitialized) {c : Config} (hc : c.complete = true) :
    (s.start t c now).Ensures (.history Hardware)
      (fun r h' => r.1 = true ∧ roles h' = roleOf (some c) :: roles h) h := by
  obtain ⟨hssid, hpass⟩ : clip 64 c.wifiSsid.view = c.wifiSsid.view ∧
      clip 64 c.wifiPass.view = c.wifiPass.view := by
    simp only [Config.complete, Bool.and_eq_true] at hc
    obtain ⟨⟨⟨⟨⟨⟨⟨hssid, hpass⟩, -⟩, -⟩, -⟩, -⟩, -⟩, -⟩ := hc
    exact ⟨clip_eq_self (fits_iff.2 (Text.length_view_of_present hssid).2),
      clip_eq_self (fits_iff.2 (Text.length_view_of_present hpass).2)⟩
  unfold start
  rw [if_neg (by simp [hs]), hssid, hpass]
  exact (connect_roles _ t now).bind fun link h' hroles => ⟨rfl, hroles⟩

lemma enterSetup_roles (hs : s.state = .uninitialized) :
    (s.enterSetup now).Ensures (.history Hardware)
      (fun _ h' => roles h' = roleOf none :: roles h) h := by
  unfold enterSetup
  rw [if_neg (by simp [hs])]
  rintro ok _ rfl
  cases ok with
  | true =>
    refine (roles_of_roleless (transition_roleless s now .setupMode) _).bind ?_
    rintro _ h' ⟨-, hroles⟩
    exact hroles
  | false =>
    rintro _ _ rfl
    rfl

end Link

/-! ### The start -/

namespace Device

open Link

variable {d : Device} {h : List (Exchange Hardware)} (now : Clock)

lemma reboot_roleless (d : Device) (why : RebootReason) :
    (d.reboot why).Confined Roleless (·.hasConfig = d.hasConfig) := by
  unfold reboot
  split
  · exact (rfl : d.hasConfig = d.hasConfig)
  · exact ⟨rfl, fun _ => ⟨rfl, fun _ => rfl⟩⟩

lemma startRole_roles {stored : Option Config} (hl : d.link.state = .uninitialized)
    (hc : d.hasConfig = stored.isSome) (hstored : ∀ c ∈ stored, d.config = c ∧ c.complete = true) :
    (d.startRole now).Ensures (.history Hardware) (fun d' h' =>
      d'.hasConfig = stored.isSome ∧ roles h' = roleOf stored :: roles h) h := by
  cases stored with
  | none =>
    rw [startRole_setup now hc]
    rintro _ _ rfl
    refine (enterSetup_roles d.link now hl).bind fun r h' hroles => ?_
    dsimp only
    split
    · exact ⟨hc, hroles⟩
    · refine (roles_of_roleless (reboot_roleless _ _) h').mono ?_
      rintro d' h'' ⟨hd, hsame⟩
      exact ⟨hd.trans hc, hsame.trans hroles⟩
  | some c =>
    obtain ⟨rfl, hcomplete⟩ := hstored c rfl
    obtain ⟨session, -, hrole⟩ := startRole_station now hc hcomplete
    rw [hrole]
    rintro _ _ rfl
    refine (start_roles d.link d.timing now hl hcomplete).bind ?_
    rintro ⟨_, link⟩ h' ⟨rfl, hroles⟩
    exact ⟨hc, hroles⟩

lemma roleless_of_indicator (c : Hardware.Call) (h : Indicator.Asks c) : Roleless c := by
  cases c <;> first | rfl | exact h.elim

lemma roleless_of_store (c : Hardware.Call) (h : Store.Asks c) : Roleless c := by
  cases c <;> first | rfl | exact h.elim

lemma refresh_roleless (d : Device) :
    (d.refresh now).Confined Roleless (·.hasConfig = d.hasConfig) :=
  (d.indicator.apply_confined _ now).within roleless_of_indicator fun _ _ => rfl

lemma strikeStart_roleless (s : Strike) (activeHigh : Bool) :
    (s.start activeHigh now).Confined Roleless fun _ => True :=
  ⟨rfl, fun _ => ⟨rfl, fun _ => ⟨rfl, fun _ => ⟨rfl, fun _ => trivial⟩⟩⟩⟩

lemma startFrom_roles (t : Timing) (indicator : Indicator) (id : Bytes) {stored : Option Config}
    (hstored : ∀ c ∈ stored, c.complete = true) :
    ((new t).startFrom now indicator id stored).Ensures (.history Hardware) (fun d h' =>
      d.hasConfig = stored.isSome ∧ roles h' = roleOf stored :: roles h) h := by
  refine (roles_of_roleless (strikeStart_roleless now _ _) h).bind ?_
  rintro strike past ⟨-, hsame⟩
  rw [← hsame]
  refine (startRole_roles now rfl rfl fun c hc => ⟨?_, hstored c hc⟩).bind ?_
  · obtain rfl := hc
    rfl
  rintro d past ⟨hc, hroles⟩
  refine (roles_of_roleless (d.refresh_roleless now) past).mono ?_
  rintro d' past ⟨hd, hsame⟩
  exact ⟨hd.trans hc, hsame.trans hroles⟩

/-- What a start comes to when storage loads a configuration, or none. -/
structure Boots (stored : Option Config) (d : Device) (h : List (Exchange Hardware)) : Prop where
  hasConfig : d.hasConfig = stored.isSome
  levels : Strike.levels h = [stored.any (·.lockActiveHigh)]
  roles : Link.roles h = [roleOf stored]

/-- Neither the strike nor the radio was asked for anything yet. -/
def Untouched (h : List (Exchange Hardware)) : Prop := Strike.levels h = [] ∧ Link.roles h = []

lemma untouched_ensures {α : Type} {p : Program Hardware α} {post : α → Prop}
    (hp : p.Confined (fun c => Strike.Idle c ∧ Roleless c) post) (hu : Untouched h) :
    p.Ensures (.history Hardware) (fun a h' => post a ∧ Untouched h') h := by
  refine ((Strike.levels_of_idle hp.left h).and (roles_of_roleless hp.right h)).mono ?_
  rintro a past ⟨⟨ha, hl⟩, -, hr⟩
  exact ⟨ha, hl.trans hu.1, hr.trans hu.2⟩

/-- The start up to where the configuration is loaded. -/
def wake (d : Device) (now : Clock) : Program Hardware (Indicator × Bytes) := do
  let indicator ← d.indicator.start now
  let id ← Hardware.deviceId 16
  Hardware.pinInput Pin.button
  pure (indicator, id)

lemma start_eq (d : Device) : d.start now = d.wake now >>= fun x => Store.load >>= fun stored =>
    d.startFrom now x.1 x.2 stored := by
  rw [wake, Program.bind_assoc]
  rfl

lemma wake_confined (d : Device) : (d.wake now).Confined
    (fun c => Flash.Spared c ∧ Strike.Idle c ∧ Roleless c) fun _ => True := by
  refine (d.indicator.start_confined now).within (fun c hc => ?_) fun indicator _ => ?_
  · cases c <;> first | exact ⟨trivial, trivial, rfl⟩ | exact hc.elim
  · exact ⟨⟨trivial, trivial, rfl⟩, fun _ => ⟨⟨trivial, trivial, rfl⟩, fun _ => trivial⟩⟩

/-- A new device starts with what storage loads. -/
lemma start_boots {R : Flash.Rules} {s : Flash} {stored : Option Config}
    (hload : Store.load.Ensures (Flash.surroundings R) (fun r _ => r = stored) s) (t : Timing) :
    ((new t).start now).Ensures ((Flash.surroundings R).both (.history Hardware))
      (fun d w => d.Boots stored w.2) (s, []) := by
  rw [start_eq]
  have hnil : Untouched [] := ⟨rfl, rfl⟩
  have hwake := wake_confined now (new t)
  refine ((Flash.keeps (R := R) hwake.left s).both (untouched_ensures hwake.right hnil)).bind ?_
  rintro x ⟨_, h⟩ ⟨⟨-, rfl⟩, -, hu⟩
  have hread : Store.load.Confined (fun c => Strike.Idle c ∧ Roleless c)
      fun r => ∀ c ∈ r, c.complete = true := by
    refine (Store.load_confined.and Store.load_complete).mono (fun c hc => ?_) fun _ => And.right
    exact ⟨Strike.idle_of_asks c (asks_of_store c hc.1), roleless_of_store c hc.1⟩
  refine (hload.both (untouched_ensures hread hu)).bind ?_
  rintro loaded ⟨s, h⟩ ⟨rfl, hcomplete, hlevels, hroles⟩
  have hlock := startFrom_levels now x.1 x.2 loaded h (d := new t) rfl
  refine ((ensures_true _ s).both (hlock.and (startFrom_roles now t x.1 x.2 hcomplete))).mono ?_
  rintro d w ⟨-, ⟨-, hl⟩, hc, hr⟩
  refine ⟨hc, ?_, by rw [hr, hroles]⟩
  rw [hl, hlevels]
  rfl

end Device

end DoorControl
