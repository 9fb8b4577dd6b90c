import DoorControl.Proofs.Device.Eligibility

/-!
The radio has one role at a time: access point or station, and one attempt at most to join a
network. The proof follows the annals of a link: what was done to it, and every call with the answer
it got.
-/

namespace DoorControl

open Program

namespace Link

/-- What the device does to its link. -/
inductive Operation
  | enterSetup (now : Clock)
  | start (c : Config) (now : Clock)
  | update (now : Clock)
  | shutdown

/-- The link after one operation. -/
def perform (t : Timing) (s : Link) : Operation → Program Hardware Link
  | .enterSetup now => do pure (← s.enterSetup now).2
  | .start c now => do pure (← s.start t c now).2
  | .update now => s.update t now
  | .shutdown => s.shutdown

end Link

/-! ### The annals -/

/-- Something in the life of a link. -/
inductive Annal
  | begun (op : Link.Operation)
  | made (x : Exchange Hardware)

namespace Annal

/-- A station is started, whether or not the radio takes it. -/
def Stations (a : Annal) : Prop := ∃ ssid pass taken, a = .made ⟨.startStation ssid pass, taken⟩

/-- An access point is asked for and opened. -/
def Opens (a : Annal) : Prop := ∃ ssid pass, a = .made ⟨.startAccessPoint ssid pass, true⟩

/-- The state that is reported, whether or not the queue takes it. -/
def reports? : Annal → Option LinkState
  | .made x => Link.report? x
  | .begun _ => none

def begins? : Annal → Option Link.Operation
  | .begun op => some op
  | .made _ => none

end Annal

/-- What happened to a link, the newest first. -/
abbrev Annals := List Annal

namespace Annals

/-- Surroundings that answer anything and keep annals. -/
def surroundings : Surroundings Hardware Annals where
  may c h r h' := h' = .made ⟨c, r⟩ :: h

/-- The state reported last. -/
def reported (h : Annals) : LinkState := (h.findSome? Annal.reports?).getD .uninitialized

/-- What is being done to the link, or was last. -/
def present? (h : Annals) : Option Link.Operation := h.findSome? Annal.begins?

/-- No access point was opened. -/
def Closed (h : Annals) : Prop := ∀ x ∈ h, ¬ x.Opens

/-- No station was started, nor was one tried. -/
def Unstationed (h : Annals) : Prop := ∀ x ∈ h, ¬ x.Stations

/-- The radio was stopped after every station that was started. -/
def Rested (h : Annals) : Prop :=
  ∀ newer x older, h = newer ++ x :: older → x.Stations → .made ⟨.stopRadio, ()⟩ ∈ newer

/-- At every moment, the radio had one role. -/
structure Exclusive (h : Annals) : Prop where
  /-- No station once an access point is open. -/
  station : ∀ x past, x :: past <:+ h → x.Stations → Closed past
  /-- No access point once a station was started, not even one that would be refused. -/
  accessPoint : ∀ ssid pass taken past,
    .made ⟨.startAccessPoint ssid pass, taken⟩ :: past <:+ h → Unstationed past
  /-- Between two stations the radio is stopped. -/
  rested : ∀ x past, x :: past <:+ h → x.Stations → Rested past
  /-- An access point stays open until the link is shut down. -/
  stop : ∀ past, .made ⟨.stopRadio, ()⟩ :: past <:+ h →
    reported past = .setupMode → present? past = some .shutdown

/-! ### One more mark -/

section

variable {x : Annal} {h : Annals}

lemma Closed.cons (hh : Closed h) (hx : ¬ x.Opens) : Closed (x :: h) := List.forall_mem_cons.2 ⟨hx, hh⟩

lemma Unstationed.cons (hh : Unstationed h) (hx : ¬ x.Stations) : Unstationed (x :: h) :=
  List.forall_mem_cons.2 ⟨hx, hh⟩

lemma Rested.cons (hh : Rested h) (hx : ¬ x.Stations) : Rested (x :: h) := by
  intro newer y older he hy
  cases newer with
  | nil =>
    obtain ⟨rfl, -⟩ := List.cons.inj he
    exact absurd hy hx
  | cons z newer =>
    obtain ⟨rfl, hrest⟩ := List.cons.inj he
    exact List.mem_cons_of_mem _ (hh newer y older hrest hy)

lemma rested_stop : Rested (.made ⟨.stopRadio, ()⟩ :: h) := by
  intro newer y older he hy
  cases newer with
  | nil =>
    obtain ⟨rfl, -⟩ := List.cons.inj he
    obtain ⟨ssid, pass, taken, he⟩ := hy
    cases he
  | cons z newer =>
    obtain ⟨rfl, -⟩ := List.cons.inj he
    exact List.mem_cons_self

lemma Unstationed.rested (hh : Unstationed h) : Rested h := by
  rintro newer y older rfl hy
  exact absurd hy (hh y (by simp))

lemma Exclusive.cons (hh : Exclusive h) (hstation : x.Stations → Closed h ∧ Rested h)
    (hpoint : ∀ ssid pass taken, x = .made ⟨.startAccessPoint ssid pass, taken⟩ → Unstationed h)
    (hstop : x = .made ⟨.stopRadio, ()⟩ → reported h = .setupMode →
      present? h = some .shutdown) : Exclusive (x :: h) where
  station y past hp hy := by
    rcases List.suffix_cons_iff.1 hp with he | hp
    · cases he
      exact (hstation hy).1
    · exact hh.station y past hp hy
  accessPoint ssid pass taken past hp := by
    rcases List.suffix_cons_iff.1 hp with he | hp
    · cases he
      exact hpoint ssid pass taken rfl
    · exact hh.accessPoint ssid pass taken past hp
  rested y past hp hy := by
    rcases List.suffix_cons_iff.1 hp with he | hp
    · cases he
      exact (hstation hy).2
    · exact hh.rested y past hp hy
  stop past hp := by
    rcases List.suffix_cons_iff.1 hp with he | hp
    · cases he
      exact hstop rfl
    · exact hh.stop past hp

end

/-! ### What a state goes with -/

/-- Annals that a link may be in a state after. -/
structure Allows (h : Annals) (s : LinkState) : Prop where
  exclusive : Exclusive h
  closed : s ≠ .setupMode → Closed h
  unstationed : s = .uninitialized ∨ s = .setupMode → Unstationed h
  rested : s = .disconnected → Rested h

/-- The calls that neither take up a role nor give it up. -/
def Idle : Hardware.Call → Prop
  | .startAccessPoint _ _ | .startStation _ _ | .stopRadio => False
  | _ => True

section

variable {c : Hardware.Call} {h : Annals} {s : LinkState}

lemma not_stations (hc : Idle c) (r : Hardware.Answer c) : ¬ (Annal.made ⟨c, r⟩).Stations := by
  rintro ⟨ssid, pass, taken, he⟩
  cases he
  exact hc

lemma not_opens (hc : ∀ ssid pass, c ≠ .startAccessPoint ssid pass) (r : Hardware.Answer c) :
    ¬ (Annal.made ⟨c, r⟩).Opens := by
  rintro ⟨ssid, pass, he⟩
  cases he
  exact hc ssid pass rfl

lemma Exclusive.idle (hh : Exclusive h) (hc : Idle c) (r : Hardware.Answer c) :
    Exclusive (.made ⟨c, r⟩ :: h) := by
  refine hh.cons (fun hx => absurd hx (not_stations hc r)) (fun _ _ _ he => ?_) (fun he => ?_)
  · cases he
    exact hc.elim
  · cases he
    exact hc.elim

lemma Allows.begun (hh : Allows h s) (op : Link.Operation) : Allows (.begun op :: h) s := by
  have hstations : ¬ (Annal.begun op).Stations := by
    rintro ⟨_, _, _, he⟩
    cases he
  have hopens : ¬ (Annal.begun op).Opens := by
    rintro ⟨_, _, he⟩
    cases he
  exact ⟨hh.exclusive.cons (fun hx => absurd hx hstations) nofun nofun,
    fun hs => (hh.closed hs).cons hopens, fun hs => (hh.unstationed hs).cons hstations,
    fun hs => (hh.rested hs).cons hstations⟩

lemma Allows.idle (hh : Allows h s) (hc : Idle c) (r : Hardware.Answer c) :
    Allows (.made ⟨c, r⟩ :: h) s where
  exclusive := hh.exclusive.idle hc r
  closed hs := (hh.closed hs).cons (not_opens (by rintro _ _ rfl; exact hc) r)
  unstationed hs := (hh.unstationed hs).cons (not_stations hc r)
  rested hs := (hh.rested hs).cons (not_stations hc r)

/-- The radio may be stopped, unless it is open to others and stays so. -/
lemma Allows.stop (hh : Allows h s) (hop : reported h = .setupMode → present? h = some .shutdown) :
    Allows (.made ⟨.stopRadio, ()⟩ :: h) s := by
  have hstations : ¬ (Annal.made ⟨.stopRadio, ()⟩).Stations := by
    rintro ⟨_, _, _, he⟩
    cases he
  refine ⟨?_, fun hs => (hh.closed hs).cons (not_opens (c := .stopRadio) nofun ()),
    fun hs => (hh.unstationed hs).cons hstations, fun _ => rested_stop⟩
  exact hh.exclusive.cons (fun hx => absurd hx hstations) nofun fun _ => hop

/-- From a station, or before there was one, a link may go to any state of a station. -/
lemma Allows.leave (hh : Allows h s) (hs : s ≠ .setupMode) {next : LinkState}
    (hnext : next = .connecting ∨ next = .connected ∨ next = .disconnected ∧ Rested h) :
    Allows h next := by
  refine ⟨hh.exclusive, fun _ => hh.closed hs, ?_, ?_⟩
  · rcases hnext with rfl | rfl | ⟨rfl, -⟩ <;> nofun
  · rcases hnext with rfl | rfl | ⟨-, hrest⟩
    · nofun
    · nofun
    · exact fun _ => hrest

lemma Allows.station (hh : Allows h s) (hs : s ≠ .setupMode) (hrest : Rested h) (ssid pass : Bytes)
    (taken : Bool) : Allows (.made ⟨.startStation ssid pass, taken⟩ :: h) .connecting where
  exclusive := hh.exclusive.cons (fun _ => ⟨hh.closed hs, hrest⟩) nofun nofun
  closed _ := (hh.closed hs).cons (not_opens (c := .startStation ssid pass) nofun taken)
  unstationed := nofun
  rested := nofun

lemma Allows.accessPoint (hh : Allows h .uninitialized) (ssid pass : Bytes) (opened : Bool) :
    Allows (.made ⟨.startAccessPoint ssid pass, opened⟩ :: h)
      (if opened then .setupMode else .uninitialized) := by
  have hnone : Unstationed (.made ⟨.startAccessPoint ssid pass, opened⟩ :: h) := by
    refine (hh.unstationed (.inl rfl)).cons ?_
    rintro ⟨_, _, _, he⟩
    cases he
  refine ⟨?_, fun hs => (hh.closed nofun).cons ?_, fun _ => hnone, fun _ => hnone.rested⟩
  · refine hh.exclusive.cons ?_ (fun _ _ _ _ => hh.unstationed (.inl rfl)) nofun
    rintro ⟨_, _, _, he⟩
    cases he
  · rintro ⟨_, _, he⟩
    cases he
    exact hs rfl

end

end Annals

namespace Link

open Annals

/-- A link and its annals, in which it is in the state that was reported last. -/
structure Fits (s : Link) (h : Annals) : Prop where
  allows : Allows h s.state
  reported : h.reported = s.state

variable {s : Link} {h : Annals} (t : Timing) (now : Clock)

/-- The calls of which the annals only keep that they were made. -/
def Quiet : Hardware.Call → Prop
  | .log _ | .radioStatus => True
  | _ => False

lemma Fits.quiet (hs : s.Fits h) {c : Hardware.Call} (hc : Quiet c) (r : Hardware.Answer c) :
    s.Fits (.made ⟨c, r⟩ :: h) := by
  refine ⟨hs.allows.idle (by cases c <;> trivial) r, ?_⟩
  cases c <;> first | exact hs.reported | exact hc.elim

lemma transition_fits {next : LinkState} (hs : h.reported = s.state) (hnext : Allows h next) :
    (s.transition next now).Ensures surroundings (fun s' h' => s'.state = next ∧ s'.Fits h') h := by
  unfold transition
  split
  · rename_i he
    exact ⟨he.symm, he ▸ hnext, hs⟩
  rintro queued _ rfl
  have hfits : { s with state := next }.Fits
      (.made ⟨.post { kind := .linkChanged, time := now, arg := next.code }, queued⟩ :: h) :=
    ⟨hnext.idle (c := .post _) trivial queued, by
      simp [Annals.reported, Annal.reports?, report?, LinkState.ofCode?_code]⟩
  cases queued with
  | true => exact ⟨rfl, hfits⟩
  | false =>
    rintro _ _ rfl
    exact ⟨rfl, hfits.quiet (c := .log _) trivial ()⟩

lemma disconnect_fits (hs : s.Fits h) (hsetup : s.state ≠ .setupMode) {s' : Link}
    (hstate : s'.state = s.state) (line : Bytes) :
    (s'.transition .disconnected now).Ensures surroundings Fits
      (.made ⟨.log line, ()⟩ :: .made ⟨.stopRadio, ()⟩ :: h) := by
  refine (transition_fits now ?_ ?_).mono fun _ _ hs' => hs'.2
  · rw [hstate, ← hs.reported]
    rfl
  · have hstop := hs.allows.stop fun hr => absurd (hs.reported.symm.trans hr) hsetup
    exact (hstop.leave hsetup (.inr (.inr ⟨rfl, rested_stop⟩))).idle (c := .log _) trivial ()

lemma fail_fits (hs : s.Fits h) (hsetup : s.state ≠ .setupMode) (why : Failure) :
    (s.fail t now why).Ensures surroundings Fits h := by
  rintro _ _ rfl _ _ rfl
  exact disconnect_fits now hs hsetup (by rfl) _

lemma transition_rested (s : Link) (next : LinkState) (hrest : Rested h) :
    (s.transition next now).Ensures surroundings (fun _ h' => Rested h') h := by
  have hidle : (s.transition next now).Confined Idle fun _ => True := by
    simp [transition, Hardware.postOrWarn, Idle]
  refine (hidle.ensures (K := Rested) ?_ hrest).mono fun _ _ => And.right
  rintro c h r _ hc rfl hrest
  exact hrest.cons (not_stations hc r)

lemma connect_fits (hs : s.Fits h) (hsetup : s.state ≠ .setupMode) (hrest : Rested h) :
    (s.connect t now).Ensures surroundings Fits h := by
  have hallows : Allows h .connecting := hs.allows.leave hsetup (.inl rfl)
  refine ((transition_fits (s := { s with startedAt := now }) now hs.reported hallows).and
    (transition_rested now _ _ hrest)).bind ?_
  rintro s' h' ⟨⟨hstate, hs'⟩, hrest⟩ taken _ rfl
  have hfits : s'.Fits (.made ⟨.startStation s'.ssid s'.pass, taken⟩ :: h') := by
    refine ⟨?_, hs'.reported⟩
    rw [hstate]
    exact hs'.allows.station (by rw [hstate]; nofun) hrest _ _ _
  cases taken with
  | true =>
    rintro _ _ rfl
    exact hfits.quiet (c := .log _) trivial ()
  | false => exact fail_fits t now hfits (by rw [hstate]; nofun) .refused

lemma enterSetup_fits (hs : s.Fits h) :
    (s.enterSetup now).Ensures surroundings (fun r h' => r.2.Fits h') h := by
  unfold enterSetup
  split
  · rintro _ _ rfl
    exact hs.quiet (c := .log _) trivial ()
  rename_i hstate
  rw [not_not] at hstate
  rintro opened _ rfl
  have hopen := Allows.accessPoint (hstate ▸ hs.allows) setupSsid setupPass opened
  have hreported :
      Annals.reported (.made ⟨.startAccessPoint setupSsid setupPass, opened⟩ :: h) = s.state :=
    hs.reported
  cases opened with
  | true => exact (transition_fits now hreported hopen).bind fun s' h' hs' => hs'.2
  | false =>
    rintro _ _ rfl
    have hfits : s.Fits (.made ⟨.startAccessPoint setupSsid setupPass, false⟩ :: h) := by
      refine ⟨?_, hreported⟩
      rw [hstate]
      exact hopen
    exact hfits.quiet (c := .log _) trivial ()

lemma start_fits (hs : s.Fits h) (c : Config) :
    (s.start t c now).Ensures surroundings (fun r h' => r.2.Fits h') h := by
  unfold start
  split
  · rintro _ _ rfl
    exact hs.quiet (c := .log _) trivial ()
  rename_i hstate
  rw [not_not] at hstate
  have hrest := (hs.allows.unstationed (.inl hstate)).rested
  have hsetup : s.state ≠ .setupMode := fun he => absurd (hstate.symm.trans he) nofun
  refine Ensures.bind (connect_fits t now ?_ ?_ hrest) fun s' h' hs' => ?_
  · exact ⟨hs.allows, hs.reported⟩
  · exact hsetup
  · exact hs'

lemma update_fits (hs : s.Fits h) : (s.update t now).Ensures surroundings Fits h := by
  unfold update
  split
  · exact hs
  -- what the radio says of itself is asked for in two states only
  have hquiet (status : RadioStatus) := hs.quiet (c := .radioStatus) trivial status
  cases hstate : s.state with
  | connecting =>
    have hsetup : s.state ≠ .setupMode := fun he => absurd (hstate.symm.trans he) nofun
    rintro status _ rfl
    cases status with
    | up =>
      rintro _ _ rfl
      refine (transition_fits now ?_ ?_).mono fun _ _ hs' => hs'.2
      · exact hs.reported
      · exact ((hquiet .up).allows.leave hsetup (.inr (.inl rfl))).idle (c := .log _) trivial ()
    | failed => exact fail_fits t now (hquiet .failed) hsetup .association
    | down =>
      change (ite _ _ _ : Program Hardware Link).Ensures _ _ _
      split
      · exact fail_fits t now (hquiet .down) hsetup .timeout
      · exact hquiet .down
  | connected =>
    have hsetup : s.state ≠ .setupMode := fun he => absurd (hstate.symm.trans he) nofun
    rintro status _ rfl
    change (ite _ _ _ : Program Hardware Link).Ensures _ _ _
    split
    · exact hquiet status
    · rintro _ _ rfl _ _ rfl
      exact disconnect_fits now (hquiet status) hsetup (by rfl) _
  | disconnected =>
    have hsetup : s.state ≠ .setupMode := fun he => absurd (hstate.symm.trans he) nofun
    change (ite _ _ _ : Program Hardware Link).Ensures _ _ _
    split
    · exact connect_fits t now hs hsetup (hs.allows.rested hstate)
    · exact hs
  | uninitialized => exact hs
  | setupMode => exact hs

lemma shutdown_fits (hs : s.Fits h) (hop : present? h = some .shutdown) :
    s.shutdown.Ensures surroundings Fits h := by
  unfold shutdown
  split
  · exact hs
  by_cases hstate : s.state = .uninitialized
  · rw [if_neg (not_not.2 hstate)]
    exact ⟨hs.allows, hs.reported⟩
  · rw [if_pos hstate]
    rintro _ _ rfl
    exact ⟨hs.allows.stop fun _ => hop, hs.reported⟩

/-! ### The end of it -/

lemma transition_stopped (hs : s.stopped = true) (next : LinkState) :
    (s.transition next now).Gives (·.stopped = true) := by
  unfold transition
  split
  · exact hs
  · exact Gives.after fun _ => hs

lemma connect_stopped (hs : s.stopped = true) : (s.connect t now).Gives (·.stopped = true) := by
  refine (transition_stopped (s := { s with startedAt := now }) now hs _).bind fun s' hs' => ?_
  refine ⟨trivial, fun taken => ?_⟩
  cases taken with
  | true => exact ⟨trivial, fun _ => hs'⟩
  | false =>
    refine ⟨trivial, fun _ => ⟨trivial, fun _ => transition_stopped now ?_ _⟩⟩
    exact hs'

lemma update_stopped (hs : s.stopped = true) : s.update t now = pure s := by
  rw [update, if_pos hs]

lemma enterSetup_stopped (hs : s.stopped = true) :
    (s.enterSetup now).Gives (·.2.stopped = true) := by
  unfold enterSetup
  split
  · exact ⟨trivial, fun _ => hs⟩
  refine ⟨trivial, fun opened => ?_⟩
  cases opened with
  | true => exact (transition_stopped now hs _).bind fun _ hs' => hs'
  | false => exact ⟨trivial, fun _ => hs⟩

lemma start_stopped (hs : s.stopped = true) (c : Config) :
    (s.start t c now).Gives (·.2.stopped = true) := by
  unfold start
  split
  · exact ⟨trivial, fun _ => hs⟩
  · refine Confined.bind (connect_stopped t now ?_) fun _ hs' => ?_
    · exact hs
    · exact hs'

lemma perform_stopped (op : Operation) (hs : op = .shutdown ∨ s.stopped = true) :
    (s.perform t op).Gives (·.stopped = true) := by
  cases op with
  | enterSetup now => exact (enterSetup_stopped now (hs.resolve_left nofun)).bind fun _ hs' => hs'
  | start c now => exact (start_stopped t now (hs.resolve_left nofun) c).bind fun _ hs' => hs'
  | update now =>
    have hs := hs.resolve_left nofun
    rw [perform, update_stopped t now hs]
    exact hs
  | shutdown =>
    change s.shutdown.Gives _
    unfold shutdown
    split
    · assumption
    split
    · exact ⟨trivial, fun _ => rfl⟩
    · exact (rfl : true = true)

/-! ### Any operations -/

/-- Whatever the surroundings answer, `post` holds after the operations and of their annals. -/
def Throughout (t : Timing) (post : Link → Annals → Prop) : List Operation → Link → Annals → Prop
  | [], s, h => post s h
  | op :: rest, s, h =>
    (s.perform t op).Ensures surroundings (Throughout t post rest) (.begun op :: h)

lemma throughout_of_keep {t : Timing} {keep post : Link → Annals → Prop}
    (hkeep : ∀ s h op, keep s h → (s.perform t op).Ensures surroundings keep (.begun op :: h))
    (hpost : ∀ s h, keep s h → post s h) (ops : List Operation) {s : Link} {h : Annals}
    (hs : keep s h) : Throughout t post ops s h := by
  induction ops generalizing s h with
  | nil => exact hpost s h hs
  | cons op rest ih => exact (hkeep s h op hs).mono fun s' h' hs' => ih hs'

lemma perform_fits (hs : s.Fits h) (op : Operation) :
    (s.perform t op).Ensures surroundings Fits (.begun op :: h) := by
  have hbegun : s.Fits (.begun op :: h) := ⟨hs.allows.begun op, hs.reported⟩
  cases op with
  | enterSetup now => exact (enterSetup_fits now hbegun).bind fun r h' hs' => hs'
  | start c now => exact (start_fits t now hbegun c).bind fun r h' hs' => hs'
  | update now => exact update_fits t now hbegun
  | shutdown => exact shutdown_fits hbegun rfl

lemma perform_shut (op : Operation) (hs : .begun .shutdown ∈ h → s.stopped = true) :
    (s.perform t op).Ensures surroundings
      (fun s' h' => .begun .shutdown ∈ h' → s'.stopped = true) (.begun op :: h) := by
  have hmade {p : Program Hardware Link} {post : Link → Prop} (hp : p.Gives post) {h : Annals} :
      p.Ensures surroundings (fun s' h' => post s' ∧
        (.begun .shutdown ∈ h' ↔ .begun .shutdown ∈ h)) h := by
    refine hp.ensures (K := fun h' : Annals => .begun .shutdown ∈ h' ↔ .begun .shutdown ∈ h) ?_ .rfl
    rintro c h' r _ - rfl hh
    simp [hh]
  by_cases hshut : op = .shutdown ∨ s.stopped = true
  · exact (hmade (perform_stopped t op hshut)).mono fun _ _ hs' _ => hs'.1
  · rw [not_or] at hshut
    refine (hmade (gives_true _)).mono fun s' h' hs' hmem => absurd (hs'.2.1 hmem) ?_
    simpa [Ne.symm hshut.1] using fun hmem => hshut.2 (hs hmem)

/-- **The roles of the radio exclude each other**, in any order of operations and whatever the radio
answers: no station once an access point is open, no access point once a station was tried, a stop
between any two stations, and none of an open access point but to shut it down. The link is in the
state that it reported last. Once shut down, it takes no notice of the time: no call, no report, no
change. -/
theorem roles_exclusive (t : Timing) (ops : List Operation) :
    Throughout t (fun s h => Exclusive h ∧ s.state = h.reported ∧
      (.begun .shutdown ∈ h → ∀ now, s.update t now = pure s)) ops {} [] := by
  have hnil : Fits {} [] := by
    refine ⟨⟨⟨?_, ?_, ?_, ?_⟩, fun _ => ?_, fun _ => ?_, fun _ => ?_⟩, rfl⟩ <;>
      simp [Closed, Unstationed, Rested]
  have hkeep (s : Link) (h : Annals) (op : Operation)
      (hs : s.Fits h ∧ (.begun .shutdown ∈ h → s.stopped = true)) :=
    (perform_fits t hs.1 op).and (perform_shut t op hs.2)
  refine throughout_of_keep hkeep (fun s h hs => ?_) ops ⟨hnil, by simp⟩
  exact ⟨hs.1.allows.exclusive, hs.1.reported.symm, fun hshut now => update_stopped t now (hs.2 hshut)⟩

end Link

end DoorControl
