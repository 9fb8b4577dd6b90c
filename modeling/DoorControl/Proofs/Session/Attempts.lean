import DoorControl.Proofs.Parts
import DoorControl.Proofs.Session.Chronicle

/-!
The order of a connection attempt: connect, announce, subscribe, report, take leave. Each state of a
session stands for how far its present attempt has come, and whatever is refused, lost or late leads
out of the order only by taking leave.
-/

namespace DoorControl

open Bytes Program

namespace Chronicle

/-- How far the present attempt of a session in a state has come. -/
def Stage (w : Wording) (g : UInt8) (h : Chronicle) : SessionState → Prop
  | .idle | .backoff => True
  | .connecting => accepted h = [w.connect g]
  | .connected => accepted h = w.opening g [] ∧ Heard h .transportUp .connecting
  | .subscribed =>
    (∃ reports, accepted h = w.opening g reports) ∧ Heard h .transportUp .connecting ∧
      Heard h .subscribed .connected

/-- A session is under way in an attempt. -/
structure Running (w : Wording) (g : UInt8) (state : SessionState) (h : Chronicle) : Prop where
  orderly : Orderly w h
  distinct : w.Distinct
  generation : generation h = g
  silence : .ended .shutdown ∉ h
  stage : Stage w g h state

/-- A session in a state may take leave of its present attempt. -/
structure Parting (w : Wording) (g : UInt8) (state : SessionState) (h : Chronicle) : Prop where
  opening : state.active = true → ∃ reports, (accepted h).Sublist (w.opening g reports)
  up : state.announced = true → w.connect g ∈ accepted h ∧ Heard h .transportUp .connecting

/-- The attempt is being announced: some of the announcement was taken. -/
structure Announcing (w : Wording) (g : UInt8) (said : List Request) (h : Chronicle) : Prop where
  running : Running w g .idle h
  said : accepted h = w.connect g :: said
  up : Heard h .transportUp .connecting

/-- The calls that are no requests. -/
def Silent : Hardware.Call → Prop
  | .request _ => False
  | _ => True

lemma request?_of_silent {c : Hardware.Call} (hc : Silent c) (r : Hardware.Answer c) :
    Mark.request? (.made ⟨c, r⟩) = none := by
  cases c with
  | request q => exact hc.elim
  | _ => rfl

variable {w : Wording} {g : UInt8} {state : SessionState} {h : Chronicle}

lemma Stage.cons_of_none (hs : Stage w g h state) {m : Mark} (hm : m.request? = none) :
    Stage w g (m :: h) state := by
  cases state with
  | idle => trivial
  | backoff => trivial
  | connecting => rwa [Stage, accepted_cons_of_none hm]
  | connected =>
    obtain ⟨hsaid, hup⟩ := hs
    exact ⟨by rwa [accepted_cons_of_none hm], hup.cons_of_none hm⟩
  | subscribed =>
    obtain ⟨hsaid, hup, hsub⟩ := hs
    exact ⟨by rwa [accepted_cons_of_none hm], hup.cons_of_none hm, hsub.cons_of_none hm⟩

namespace Running

lemma cons_of_none (hr : Running w g state h) {m : Mark} (hm : m.request? = none)
    (hne : m ≠ .ended .shutdown) : Running w g state (m :: h) where
  orderly := hr.orderly.cons_of_none hm fun hs => absurd hs hr.silence
  distinct := hr.distinct
  generation := by rw [generation_cons_of_none hm, hr.generation]
  silence := by simpa [hne.symm] using hr.silence
  stage := hr.stage.cons_of_none hm

lemma ensures (hr : Running w g state h) {α : Type} {p : Program Hardware α} {post : α → Prop}
    (hp : p.Confined Silent post) :
    p.Ensures surroundings (fun a h' => post a ∧ Running w g state h') h := by
  refine hp.ensures ?_ hr
  rintro c h r _ hc rfl hr
  exact hr.cons_of_none (request?_of_silent hc r) (by simp)

lemma rest (hr : Running w g state h) : Running w g .idle h :=
  { hr with stage := trivial }

/-- A request in its place goes on with the attempt, taken or not. -/
lemma request (hr : Running w g state h) {r : Request} (hne : ∀ c, r ≠ .connect c)
    (hdue : Due w g h r) (reports : List (LockState × DoorState))
    (hscript : (accepted h ++ [r]).Sublist (w.script g reports)) (taken : Bool) :
    Running w g .idle (.made ⟨.request r, taken⟩ :: h) where
  orderly := by
    have hg : Chronicle.generation (.made ⟨.request r, taken⟩ :: h) = g := by
      rw [generation_cons_request taken hne, hr.generation]
    refine hr.orderly.cons_request hr.distinct hr.silence (by rwa [hg]) reports ?_
    rw [hg, accepted_cons_request taken hne]
    cases taken with
    | true => exact hscript
    | false =>
      rw [if_neg Bool.false_ne_true, List.append_nil]
      exact (List.sublist_append_left _ _).trans hscript
  distinct := hr.distinct
  generation := by rw [generation_cons_request taken hne, hr.generation]
  silence := by simpa using hr.silence
  stage := trivial

lemma attempt (hr : Running w g state h) (taken : Bool) :
    Running w (g + 1) .idle (.made ⟨.request (w.connect (g + 1)), taken⟩ :: h) := by
  have hg : Chronicle.generation (.made ⟨.request (w.connect (g + 1)), taken⟩ :: h) = g + 1 := by
    rw [Wording.connect, generation_cons_connect, hr.generation]
  refine ⟨?_, hr.distinct, hg, by simpa using hr.silence, trivial⟩
  refine hr.orderly.cons_request hr.distinct hr.silence ?_ [] ?_
  · rw [hg]
    refine ⟨⟨[], Wording.mem_script.2 (.inl rfl)⟩, fun hmem => ?_, fun x hx => ?_, fun hoff => ?_⟩
    · simp [Wording.connect, Wording.announcement] at hmem
    · cases hx
    · cases hoff
  · rw [hg, Wording.connect, accepted_cons_connect]
    cases taken with
    | true => simp [Wording.script, Wording.opening, Wording.connect]
    | false => exact List.nil_sublist _

lemma parting (hr : Running w g state h) : Parting w g state h := by
  have hs := hr.stage
  cases state with
  | idle => exact ⟨nofun, nofun⟩
  | backoff => exact ⟨nofun, nofun⟩
  | connecting =>
    refine ⟨fun _ => ⟨[], ?_⟩, nofun⟩
    rw [show accepted h = [w.connect g] from hs]
    simp [Wording.opening]
  | connected =>
    obtain ⟨hsaid, hup⟩ := hs
    exact ⟨fun _ => ⟨[], hsaid ▸ List.Sublist.refl _⟩,
      fun _ => ⟨by simp [hsaid, Wording.opening], hup⟩⟩
  | subscribed =>
    obtain ⟨⟨reports, hsaid⟩, hup, -⟩ := hs
    exact ⟨fun _ => ⟨reports, hsaid ▸ List.Sublist.refl _⟩,
      fun _ => ⟨by simp [hsaid, Wording.opening], hup⟩⟩

end Running

namespace Announcing

variable {said : List Request}

lemma cons_of_none (ha : Announcing w g said h) {m : Mark} (hm : m.request? = none)
    (hne : m ≠ .ended .shutdown) : Announcing w g said (m :: h) where
  running := ha.running.cons_of_none hm hne
  said := by rw [accepted_cons_of_none hm, ha.said]
  up := ha.up.cons_of_none hm

lemma parting (ha : Announcing w g said h) (hp : said <+: w.announcement g) :
    Parting w g .connected h := by
  refine ⟨fun _ => ⟨[], ?_⟩, fun _ => ⟨by simp [ha.said], ha.up⟩⟩
  rw [ha.said, Wording.opening, List.map_nil, List.append_nil]
  exact hp.sublist.cons_cons _

/-- The next request of the announcement. -/
lemma request (ha : Announcing w g said h) {r : Request} (hp : said ++ [r] <+: w.announcement g)
    (taken : Bool) :
    Announcing w g (if taken then said ++ [r] else said) (.made ⟨.request r, taken⟩ :: h) := by
  have hmem : r ∈ w.announcement g := hp.subset (by simp)
  have hne : ∀ c, r ≠ .connect c := by
    rintro c rfl
    simp [Wording.announcement] at hmem
  have hconnect : w.connect g ∈ accepted h := by simp [ha.said]
  have hdue : Due w g h r := by
    refine ⟨⟨[], Wording.mem_script.2 (.inr (.inl hmem))⟩, fun _ => ⟨hconnect, ha.up⟩, ?_,
      fun _ => hconnect⟩
    rintro x rfl
    exact absurd hmem (Wording.report_notMem_announcement ha.running.distinct x)
  refine ⟨ha.running.request hne hdue [] ?_ taken, ?_, ha.up.cons_request taken hne⟩
  · rw [ha.said, Wording.script, Wording.opening, List.map_nil, List.append_nil, List.cons_append,
      List.cons_append]
    exact (hp.sublist.trans (List.sublist_append_left _ _)).cons_cons _
  · rw [accepted_cons_request taken hne, ha.said]
    cases taken with
    | true => rfl
    | false => simp

end Announcing

end Chronicle

namespace Session

open Chronicle

/-- The chronicle of a session is in order, and the session stands where it says. -/
structure InOrder (s : Session) (h : Chronicle) : Prop where
  orderly : Orderly s.wording h
  generation : Chronicle.generation h = s.generation
  running : s.configured = true → s.stopped = false → Running s.wording s.generation s.state h
  idle : s.configured = false → s.state = .idle

variable {s : Session} {h : Chronicle} (t : Timing) (now : Clock)

lemma inOrder_of_running (hc : s.configured = true)
    (hr : Running s.wording s.generation s.state h) : s.InOrder h :=
  ⟨hr.orderly, hr.generation, fun _ _ => hr, fun hf => by simp [hc] at hf⟩

lemma transition_silent (next : SessionState) :
    (s.transition next now).Confined Silent (· = { s with state := next }) := by
  unfold transition
  split
  · rename_i he
    subst he
    rfl
  · exact (Hardware.postOrWarn_confined _ trivial fun _ => trivial).bind fun _ _ => rfl

/-- What a request comes to, taken or not, stands after the log line about its refusal. -/
lemma requestOrWarn_ensures {K : Chronicle → Prop} {r : Request} (message : Bytes)
    (hrequest : ∀ taken, K (.made ⟨.request r, taken⟩ :: h))
    (hlog : ∀ h line, K h → K (.made ⟨.log line, ()⟩ :: h)) :
    (requestOrWarn r message).Ensures surroundings (fun _ h' => K h') h := by
  rintro taken _ rfl
  cases taken with
  | true => exact hrequest true
  | false =>
    rintro _ _ rfl
    exact hlog _ _ (hrequest false)

/-- In the attempt that is being left, there is still room for saying that it ends. -/
structure Leaving (s : Session) (h : Chronicle) : Prop where
  running : Running s.wording s.generation .idle h
  script : s.state.active = true → ∃ reports,
    (accepted h ++ [Request.disconnect s.generation]).Sublist
      (s.wording.script s.generation reports)

lemma Leaving.log (hl : s.Leaving h) (line : Bytes) : s.Leaving (.made ⟨.log line, ()⟩ :: h) where
  running := hl.running.cons_of_none rfl nofun
  script hactive := by
    rw [accepted_cons_of_none rfl]
    exact hl.script hactive

lemma active_of_announced {state : SessionState} (h : state.announced = true) :
    state.active = true := by
  cases state <;> first | rfl | cases h

/-- The offline notice of an announced device is in its place. -/
lemma offline_leaving (hr : Running s.wording s.generation .idle h)
    (hp : Parting s.wording s.generation s.state h) (hannounced : s.state.announced = true)
    (message : Bytes) :
    (requestOrWarn (s.wording.offline s.generation) message).Ensures surroundings
      (fun _ h' => s.Leaving h') h := by
  obtain ⟨hconnect, hup⟩ := hp.up hannounced
  obtain ⟨reports, hopening⟩ := hp.opening (active_of_announced hannounced)
  have hne : ∀ c, s.wording.offline s.generation ≠ .connect c := fun c he => by cases he
  have hdue : Due s.wording s.generation h (s.wording.offline s.generation) :=
    ⟨⟨[], by simp [Wording.mem_script]⟩, fun _ => ⟨hconnect, hup⟩,
      fun x hx => absurd hx (Wording.offline_ne_report hr.distinct x), fun _ => hconnect⟩
  refine requestOrWarn_ensures message (fun taken => ?_) fun h line hl => hl.log line
  refine ⟨hr.request hne hdue reports (hopening.append (by simp)) taken, fun _ => ⟨reports, ?_⟩⟩
  have hsaid : accepted (.made ⟨.request (s.wording.offline s.generation), taken⟩ :: h) ++
      [.disconnect s.generation] =
      accepted h ++ ((if taken then [s.wording.offline s.generation] else []) ++
        [.disconnect s.generation]) := by
    rw [accepted_cons_request taken hne, List.append_assoc]
  refine hsaid ▸ hopening.append ?_
  cases taken <;> simp

lemma disconnect_running (hl : s.Leaving h) (hactive : s.state.active = true) (message : Bytes) :
    (requestOrWarn (.disconnect s.generation) message).Ensures surroundings
      (fun _ h' => Running s.wording s.generation .idle h') h := by
  obtain ⟨reports, hscript⟩ := hl.script hactive
  have hdue : Due s.wording s.generation h (.disconnect s.generation) :=
    ⟨⟨[], by simp [Wording.mem_script]⟩, by simp [Wording.announcement], nofun, nofun⟩
  refine requestOrWarn_ensures message (fun taken => ?_) fun h line hr => ?_
  · exact hl.running.request (fun c he => by cases he) hdue reports hscript taken
  · exact hr.cons_of_none rfl (by simp)

/-- Taking leave keeps to the order of the attempt that is left. -/
lemma teardown_running (hr : Running s.wording s.generation .idle h)
    (hp : Parting s.wording s.generation s.state h) :
    s.teardown.Ensures surroundings (fun _ h' => Running s.wording s.generation .idle h') h := by
  have hdisconnect {h : Chronicle} (hl : s.Leaving h) :
      (if s.state.active then
        requestOrWarn (.disconnect s.generation) (ascii "disconnect not queued")
      else pure ()).Ensures surroundings
        (fun _ h' => Running s.wording s.generation .idle h') h := by
    split
    · rename_i hactive
      exact disconnect_running hl hactive _
    · exact hl.running
  rw [teardown_eq, ensures_bind, ensures_ite]
  refine ⟨fun hannounced => ?_, fun _ => hdisconnect ⟨hr, fun hactive => ?_⟩⟩
  · exact (offline_leaving hr hp hannounced _).mono fun _ h hl => hdisconnect hl
  · obtain ⟨reports, hopening⟩ := hp.opening hactive
    exact ⟨reports, hopening.append (by simp)⟩

lemma fail_inOrder (hc : s.configured = true) (hr : Running s.wording s.generation .idle h)
    (hp : Parting s.wording s.generation s.state h) (why : Failure) :
    (s.fail t now why).Ensures surroundings InOrder h := by
  refine (teardown_running hr hp).bind ?_
  rintro _ h hr _ _ rfl
  refine ((hr.cons_of_none rfl (by simp)).ensures (transition_silent now _)).mono ?_
  rintro _ h ⟨rfl, hr⟩
  exact inOrder_of_running hc { hr with stage := trivial }

lemma lose_inOrder (hc : s.configured = true) (hr : Running s.wording s.generation s.state h) :
    (s.lose t now).Ensures surroundings InOrder h := by
  rintro _ _ rfl
  refine ((hr.cons_of_none rfl (by simp)).ensures (transition_silent now _)).mono ?_
  rintro _ h ⟨rfl, hr⟩
  exact inOrder_of_running hc { hr with stage := trivial }

lemma connect_inOrder (hc : s.configured = true) (hr : Running s.wording s.generation .idle h) :
    (s.connect t now).Ensures surroundings InOrder h := by
  refine (hr.ensures (transition_silent now _)).bind ?_
  rintro _ h ⟨rfl, hr⟩ taken _ rfl
  have hr' := hr.attempt taken
  cases taken with
  | true =>
    rintro _ _ rfl
    have hconnecting : Running s.wording (s.generation + 1) .connecting
        (.made ⟨.request (s.wording.connect (s.generation + 1)), true⟩ :: h) :=
      { hr' with stage := accepted_cons_connect true _ }
    exact inOrder_of_running hc (hconnecting.cons_of_none rfl (by simp))
  | false =>
    -- nothing of this attempt was taken, so there is nothing to keep in order
    refine fail_inOrder t now ?_ ?_ ⟨fun _ => ⟨[], ?_⟩, fun hf => ?_⟩ .refused
    · exact hc
    · exact hr'
    · rw [accepted_cons_connect]
      exact List.nil_sublist _
    · cases hf

lemma announce_running (ha : Announcing s.wording s.generation [] h) :
    s.announce.Ensures surroundings (fun ok h' =>
      if ok then Running s.wording s.generation .connected h'
      else Running s.wording s.generation .idle h' ∧
        Parting s.wording s.generation .connected h') h := by
  have hrefused {said : List Request} {h : Chronicle}
      (ha : Announcing s.wording s.generation said h)
      (hp : said <+: s.wording.announcement s.generation) :
      Running s.wording s.generation .idle h ∧ Parting s.wording s.generation .connected h :=
    ⟨ha.running, ha.parting hp⟩
  rintro taken _ rfl
  have ha := ha.request (r := .publish s.generation s.topics.discovery s.discovery true)
    ⟨_, rfl⟩ taken
  cases taken with
  | false => exact hrefused ha (List.nil_prefix)
  | true =>
    rintro taken _ rfl
    have ha := ha.request (r := .publish s.generation s.topics.availability online true)
      ⟨_, rfl⟩ taken
    cases taken with
    | false => exact hrefused ha ⟨_, rfl⟩
    | true =>
      rintro taken _ rfl
      have ha := ha.request (r := .subscribe s.generation s.topics.command) ⟨[], rfl⟩ taken
      cases taken with
      | false => exact hrefused ha ⟨_, rfl⟩
      | true => exact { ha.running with stage := ⟨ha.said, ha.up⟩ }

lemma enterConnected_inOrder (hc : s.configured = true)
    (hr : Running s.wording s.generation .connecting h)
    (hup : Heard h .transportUp .connecting) :
    (s.enterConnected t now).Ensures surroundings InOrder h := by
  have ha : Announcing s.wording s.generation [] h := ⟨hr.rest, hr.stage, hup⟩
  refine ((transition_silent now _).ensures ?_ ha).bind ?_
  · rintro c h r _ hcall rfl ha
    exact ha.cons_of_none (request?_of_silent hcall r) (by simp)
  rintro _ h ⟨rfl, ha⟩
  refine (announce_running ha).bind fun ok h hok => ?_
  cases ok with
  | true => exact inOrder_of_running hc hok
  | false =>
    refine fail_inOrder t now ?_ ?_ ?_ .announce
    · exact hc
    · exact hok.1
    · exact hok.2

lemma publishPending_inOrder (hc : s.configured = true) (hs : s.state = .subscribed)
    (hr : Running s.wording s.generation .subscribed h) :
    s.publishPending.Ensures surroundings InOrder h := by
  have hr' : s.InOrder h := inOrder_of_running hc (by rwa [hs])
  unfold publishPending
  split
  · exact hr'
  rintro taken _ rfl
  obtain ⟨⟨reports, hsaid⟩, hup, hsub⟩ := hr.stage
  have hne : ∀ c, s.wording.report s.generation (s.lock, s.door) ≠ .connect c :=
    fun c he => by cases he
  have hscript : (accepted h ++ [s.wording.report s.generation (s.lock, s.door)]).Sublist
      (s.wording.script s.generation (reports ++ [(s.lock, s.door)])) := by
    simp [hsaid, Wording.script, Wording.opening]
  have hdue : Due s.wording s.generation h (s.wording.report s.generation (s.lock, s.door)) := by
    refine ⟨⟨[(s.lock, s.door)], by simp [Wording.mem_script]⟩, fun hmem => ?_,
      fun x _ => ⟨fun q hq => ?_, hsub⟩, fun he => ?_⟩
    · exact absurd hmem (Wording.report_notMem_announcement hr.distinct _)
    · rw [hsaid, Wording.opening, List.mem_append]
      exact .inl (by simpa [Wording.opening] using hq)
    · exact absurd he.symm (Wording.offline_ne_report hr.distinct _)
  have hnext := hr.request hne hdue _ hscript taken
  have hstage : Stage s.wording s.generation
      (.made ⟨.request (s.wording.report s.generation (s.lock, s.door)), taken⟩ :: h)
      .subscribed := by
    refine ⟨⟨if taken then reports ++ [(s.lock, s.door)] else reports, ?_⟩,
      hup.cons_request taken hne, hsub.cons_request taken hne⟩
    rw [accepted_cons_request taken hne, hsaid]
    cases taken <;> simp [Wording.opening]
  have hdone : Running s.wording s.generation s.state _ := hs ▸ { hnext with stage := hstage }
  cases taken with
  | true => exact inOrder_of_running hc hdone
  | false => exact inOrder_of_running hc hdone

lemma enterSubscribed_inOrder (hc : s.configured = true)
    (hr : Running s.wording s.generation .connected h) (hsub : Heard h .subscribed .connected) :
    (s.enterSubscribed now).Ensures surroundings InOrder h := by
  obtain ⟨hsaid, hup⟩ := hr.stage
  have hr : Running s.wording s.generation .subscribed h :=
    { hr with stage := ⟨⟨[], hsaid⟩, hup, hsub⟩ }
  rintro _ _ rfl
  refine ((hr.cons_of_none rfl (by simp)).ensures (transition_silent now _)).bind ?_
  rintro _ h ⟨rfl, hr⟩
  exact publishPending_inOrder hc rfl hr

/-! ### Operations -/

lemma running_of_not (hs : s.InOrder h) (hn : ¬(!s.configured || s.stopped) = true) :
    s.configured = true ∧ Running s.wording s.generation s.state h := by
  have hc : s.configured = true ∧ s.stopped = false := by simpa using hn
  exact ⟨hc.1, hs.running hc.1 hc.2⟩

lemma update_inOrder (hs : s.InOrder h) (linkUp : Bool) :
    (s.update t linkUp now).Ensures surroundings InOrder h := by
  unfold update
  split
  · exact hs
  rename_i hn
  obtain ⟨hc, hr⟩ := running_of_not hs hn
  split
  · split
    · exact hs
    refine (teardown_running hr.rest hr.parting).bind fun _ h hr => ?_
    refine (hr.ensures (transition_silent now _)).mono ?_
    rintro _ h ⟨rfl, hr⟩
    exact inOrder_of_running hc hr
  have hp := hr.parting
  cases hstate : s.state with
  | idle => exact connect_inOrder t now hc hr.rest
  | backoff =>
    dsimp only
    split
    · exact connect_inOrder t now hc hr.rest
    · exact hs
  | subscribed => exact publishPending_inOrder hc hstate (hstate ▸ hr)
  | connecting =>
    dsimp only
    split
    · exact fail_inOrder t now hc hr.rest hp .timeout
    · exact hs
  | connected =>
    dsimp only
    split
    · exact fail_inOrder t now hc hr.rest hp .timeout
    · exact hs

lemma receive_silent (payload : Bytes) : (s.receive payload now).Confined Silent (· = s) := by
  unfold receive
  cases LockState.ofCommand? payload <;> simp [Silent]

lemma handle_inOrder (hs : s.InOrder h) (e : Event)
    (hheard : e.arg = s.generation → Heard h e.kind s.state) :
    (s.handle t e now).Ensures surroundings InOrder h := by
  unfold handle
  split
  · exact hs
  rename_i hn
  obtain ⟨hc, hr⟩ := running_of_not hs hn
  split
  · exact hs
  rename_i harg
  have hheard := hheard (not_not.1 harg)
  have hp := hr.parting
  cases hk : e.kind with
  | transportUp =>
    rw [hk] at hheard
    dsimp only
    split
    · rename_i hstate
      rw [hstate] at hr hheard
      exact enterConnected_inOrder t now hc hr hheard
    · exact hs
  | transportFailed => simp [hs, fail_inOrder t now hc hr.rest hp]
  | subscribed =>
    rw [hk] at hheard
    dsimp only
    split
    · rename_i hstate
      rw [hstate] at hr hheard
      exact enterSubscribed_inOrder now hc hr hheard
    · exact hs
  | publishFailed => simp [hs, fail_inOrder t now hc hr.rest hp]
  | transportLost => simp [hs, lose_inOrder t now hc hr]
  | message =>
    dsimp only
    split
    · refine (hr.ensures (receive_silent now _)).mono ?_
      rintro _ h ⟨rfl, hr⟩
      exact inOrder_of_running hc hr
    · exact hs
  | _ => exact hs

lemma publish_inOrder (hs : s.InOrder h) (l : LockState) (d : DoorState) :
    (s.publish l d).Ensures surroundings InOrder h := by
  have hs' : { s with lock := l, door := d, dirty := true }.InOrder h :=
    ⟨hs.orderly, hs.generation, hs.running, hs.idle⟩
  unfold publish
  dsimp only
  split
  · rename_i hcan
    simp only [Bool.and_eq_true, decide_eq_true_eq, Bool.not_eq_true'] at hcan
    obtain ⟨hstate, hstopped⟩ := hcan
    have hc : s.configured = true := by
      by_contra hf
      rw [hs.idle (by simpa using hf)] at hstate
      cases hstate
    refine publishPending_inOrder ?_ ?_ ?_
    · exact hc
    · exact hstate
    · exact hstate ▸ hs.running hc hstopped
  · exact hs'

lemma inOrder_stopped (ho : Orderly s.wording h) (hg : Chronicle.generation h = s.generation)
    (hi : s.configured = false → s.state = .idle) : InOrder { s with stopped := true } h where
  orderly := ho
  generation := hg
  running _ hf := by cases hf
  idle := hi

lemma shutdown_inOrder (hs : s.InOrder h) :
    (s.shutdown t).Ensures surroundings (fun s' h' => s'.InOrder h' ∧ s'.stopped = true) h := by
  unfold shutdown
  split
  · rename_i hstopped
    exact ⟨hs, hstopped⟩
  rename_i hstopped
  rcases Bool.eq_false_or_eq_true s.configured with hc | hc
  · have hr := hs.running hc (by simpa using hstopped)
    have hdone {h : Chronicle} (hr : Running s.wording s.generation .idle h) :
        InOrder { s with stopped := true } h :=
      inOrder_stopped hr.orderly hr.generation hs.idle
    refine (teardown_running hr.rest hr.parting).bind fun _ h hr => ?_
    split
    · rintro done _ rfl
      have hr := hr.cons_of_none (m := .made ⟨.flush t.mqttFlushTimeout, done⟩) rfl (by simp)
      cases done with
      | true => exact ⟨hdone hr, rfl⟩
      | false =>
        rintro _ _ rfl
        exact ⟨hdone (hr.cons_of_none rfl (by simp)), rfl⟩
    · exact ⟨hdone hr, rfl⟩
  · -- a session that was never configured has nothing to take leave of
    have hidle := hs.idle hc
    have hteardown : s.teardown = pure () := by
      simp [teardown_eq, hidle, SessionState.announced, SessionState.active]
    have hactive : s.state.active = false := by rw [hidle]; rfl
    rw [hteardown, hactive]
    exact ⟨inOrder_stopped hs.orderly hs.generation hs.idle, rfl⟩

/-- The marks of an operation change nothing, but that a session is not under way after its
shutdown. -/
lemma InOrder.mark (hs : s.InOrder h) {m : Mark} (hm : m.request? = none) (hx : ∀ x, m ≠ .made x)
    (hstopped : m = .ended .shutdown → s.stopped = true) : s.InOrder (m :: h) where
  orderly := hs.orderly.cons_of_none hm fun _ => hx
  generation := by rw [generation_cons_of_none hm, hs.generation]
  running hc hf := (hs.running hc hf).cons_of_none hm fun he => by simp [hstopped he] at hf
  idle := hs.idle

lemma perform_inOrder (hs : s.InOrder h) (op : Operation) :
    (s.perform t op).Ensures surroundings (fun s' h' => s'.InOrder (.ended op :: h'))
      (.begun op s.state :: h) := by
  have hbegun : s.InOrder (.begun op s.state :: h) := hs.mark rfl nofun fun he => by cases he
  have hended (hop : op ≠ .shutdown) {s' : Session} {h' : Chronicle} (hs' : s'.InOrder h') :
      s'.InOrder (.ended op :: h') :=
    hs'.mark rfl nofun fun he => absurd (Mark.ended.inj he) hop
  cases op with
  | update linkUp now =>
    exact (update_inOrder t now hbegun linkUp).mono fun s' h' => hended nofun
  | handle e now =>
    refine (handle_inOrder t now hbegun e fun harg => ?_).mono fun s' h' => hended nofun
    refine ⟨e, now, ?_, rfl, ?_⟩
    · rw [attempt_cons_of_none rfl]
      exact List.mem_cons_self
    · rw [harg, hbegun.generation]
  | publish l d =>
    exact (publish_inOrder hbegun l d).mono fun s' h' => hended nofun
  | shutdown =>
    refine (shutdown_inOrder t hbegun).mono ?_
    rintro s' h' ⟨hs', hstopped⟩
    exact hs'.mark rfl nofun fun _ => hstopped

lemma configure_inOrder (c : Config) :
    (({} : Session).configure c).Ensures surroundings (fun r h => r.2.InOrder h) [] := by
  have hlogged (s : Session) (hc : s.configured = false) (hi : s.state = .idle)
      (hg : s.generation = 0) (line : Bytes) : s.InOrder [.made ⟨.log line, ()⟩] :=
    ⟨(Orderly.nil _).cons_of_none rfl (by simp), hg.symm, fun ht => by simp [hc] at ht, fun _ => hi⟩
  simp only [configure]
  split
  · rintro _ _ rfl
    exact hlogged _ rfl rfl rfl _
  rename_i hb
  have hb : (({} : Topics).build c.deviceId.view).1 = true := by simpa using hb
  cases Document.discovery? c (({} : Topics).build c.deviceId.view).2 with
  | none =>
    rintro _ _ rfl
    exact hlogged _ rfl rfl rfl _
  | some d =>
    dsimp only
    split
    · rintro _ _ rfl
      exact hlogged _ rfl rfl rfl _
    · exact inOrder_of_running rfl
        ⟨Orderly.nil _, ⟨Topics.build_distinct hb, Topics.build_apart hb⟩, rfl, by simp, trivial⟩

/-- **Attempts are in order**: after a configuration and any operations, whatever the transport
takes, the number of connections asked for is the generation of the session, around 256, and at
every moment the requests taken in the present attempt are some of its script, in order. Each
request carries the number of its attempt and has its place in it: the device is announced once the
connect was taken and a session that is connecting was told of the connection, and its state is
reported once all of that was taken and a connected session was told of the subscription. Leave is
taken once, and nothing is called after a shutdown. -/
theorem attempts_in_order (t : Timing) (c : Config) (ops : List Operation) :
    (({} : Session).configure c).Ensures surroundings (fun r => Throughout t (fun s h =>
      Chronicle.generation h = s.generation ∧ Orderly s.wording h) ops r.2) [] := by
  refine (configure_inOrder c).mono fun r h hs => ?_
  have hkeep (s : Session) (h : Chronicle) (op : Operation) (hs : s.InOrder h) :=
    perform_inOrder t hs op
  exact throughout_of_keep hkeep (fun s h hs => ⟨hs.generation, hs.orderly⟩) ops hs

end Session

end DoorControl
