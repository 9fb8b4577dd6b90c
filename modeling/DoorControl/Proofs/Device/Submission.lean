import DoorControl.Proofs.Config.Slots
import DoorControl.Proofs.Device.Boot
import DoorControl.Proofs.Device.Restart

/-!
What becomes of a submission: it is stored and the device restarts with it, or nothing has changed
but the log and the light.
-/

namespace DoorControl

open Bytes Program

/-! ### Surroundings of a submission -/

/-- The mailbox for submissions, which holds one at most. -/
def Submission.mailbox : Surroundings Hardware (Option Submission) where
  may
    | .take, m, r, m' => r = m ∧ m' = none
    | .offer x, m, ok, m' => m' = if ok then some x else m
    | _, m, _, m' => m' = m

namespace Flash.Rules

/-- Reads and removes are faithful, and writes are complete or refused. -/
def untorn (long : Bytes → Nat → Bytes → Prop) : Rules :=
  { faithful long with write := (· ≠ .torn) }

lemma readsFit_untorn (long : Bytes → Nat → Bytes → Prop) : (untorn long).ReadsFit :=
  readsFit_faithful long

end Flash.Rules

/-- A storage, a mailbox, and the exchanges so far, the newest first. -/
abbrev Submission.World := Flash × Option Submission × List (Exchange Hardware)

/-- The surroundings of a submission, with a storage of such rules. -/
def Submission.surroundings (long : Bytes → Nat → Bytes → Prop) :
    Surroundings Hardware Submission.World :=
  (Flash.surroundings (.untorn long)).both (mailbox.both (.history Hardware))

/-! ### A save that is not torn -/

namespace Store

open Flash

/-- A save that ends without an error is of the configuration to load; another one changes nothing
about it. -/
lemma save_newest {long : Bytes → Nat → Bytes → Prop} (s : Flash) {c : Config}
    (hc : c.complete = true) :
    (save c).Ensures (surroundings (.untorn long)) (fun r s' => ∃ f, s'.fates = f :: s.fates ∧
      (r = none ↔ f = .complete) ∧
        s'.newest = if f = .complete then some c.normal else s.newest) s := by
  refine (save_ensures s (Rules.readsFit_untorn long) hc).mono ?_
  rintro r s' ⟨f, h⟩
  have huntorn : f ≠ .torn := h.allowed
  refine ⟨f, h.fates, ⟨fun hr => (h.wrote hr).resolve_right fun ht => huntorn ht.1, h.done⟩, ?_⟩
  cases f with
  | complete => rw [if_pos rfl, newest, h.found, Fate.found, newest?_next, Option.map_some]
  | refused => rw [if_neg (by decide), newest, h.found, Fate.found, Function.update_eq_self, newest]
  | torn => exact absurd rfl huntorn

end Store

/-! ### Calls -/

namespace Device

/-- The calls that a submission may make which comes to nothing: it is taken, storage is tried, and
the log and the light tell of it. -/
def Minor : Hardware.Call → Prop
  | .take | .storedLength _ | .storedRead _ _ | .storedWrite _ _ | .log _ | .light _ _ _ => True
  | _ => False

lemma save_minor (c : Config) : (Store.save c).Confined Minor fun _ => True := by
  have hread (slot : Store.Slot) : (Store.readSlot slot).Confined Minor fun _ => True := by
    simp [Store.readSlot, Minor]
    intro n _ _ value _
    cases Record.decode? value <;> simp [Minor]
  unfold Store.save
  split
  · trivial
  refine (hread .a).bind fun a _ => (hread .b).bind fun b _ => ?_
  simp [Minor]

variable {d : Device} {long : Bytes → Nat → Bytes → Prop}

/-- The configuration was written, and that is all that a restart waits for. -/
structure Stored (next : Config) (s : Flash) (d : Device) (w : Submission.World) : Prop where
  complete : next.complete = true
  fates : w.1.fates = .complete :: s.fates
  pending : d.rebootPending = true
  restart : restarts w.2.2 = 1
  newest : w.1.newest = some next.normal

/-- The configuration was not written. -/
structure Unstored (next : Config) (s : Flash) (w : Submission.World) : Prop where
  fates : if next.complete then ∃ f, f ≠ .complete ∧ w.1.fates = f :: s.fates
    else w.1.fates = s.fates
  minor : ∀ x ∈ w.2.2, Minor x.call
  newest : w.1.newest = s.newest

lemma goOffline_reboot (hr : d.rebootPending = false) (why : RebootReason) {R : Flash.Rules}
    (s : Flash) (m : Option Submission) (h : List (Exchange Hardware)) :
    (d.goOffline >>= fun d => d.reboot why).Ensures
      ((Flash.surroundings R).both (Submission.mailbox.both (.history Hardware)))
      (fun d' w => d'.rebootPending = true ∧ w.1 = s ∧ restarts w.2.2 = restarts h + 1)
      (s, m, h) := by
  have hspared : (d.goOffline >>= fun d => d.reboot why).Confined Flash.Spared fun _ => True :=
    d.goOffline_going.left.bind fun d _ => d.reboot_spared why
  have hoffline := d.goOffline_going.right.unchanged (fun _ r h hc => restarts_cons hc r h) h
  have hrestart : (d.goOffline >>= fun d => d.reboot why).Ensures (.history Hardware)
      (fun d' h' => d'.rebootPending = true ∧ restarts h' = restarts h + 1) h := by
    refine hoffline.bind ?_
    rintro d' h' ⟨hd, hsame⟩
    rw [← hsame]
    exact reboot_restarts (hd.trans hr) why h'
  refine ((Flash.keeps hspared s).both ((ensures_true _ m).both hrestart)).mono ?_
  rintro d' w ⟨⟨-, hs⟩, -, hpending, hcount⟩
  exact ⟨hpending, hs, hcount⟩

lemma minor_ensures {α : Type} {p : Program Hardware α} {post : α → Prop}
    (hp : p.Confined (fun c => Minor c ∧ Flash.Spared c) post) (s : Flash) (m : Option Submission)
    {h : List (Exchange Hardware)} (hh : ∀ x ∈ h, Minor x.call) :
    p.Ensures (Submission.surroundings long)
      (fun a w => post a ∧ w.1 = s ∧ ∀ x ∈ w.2.2, Minor x.call) (s, m, h) := by
  have hkeeps := Flash.keeps (R := .untorn long) hp.right s
  refine (hkeeps.both ((ensures_true p m).both (hp.left.calls hh))).mono ?_
  rintro a w ⟨⟨ha, hs⟩, -, -, hminor⟩
  exact ⟨ha, hs, hminor⟩

lemma restarts_of_minor {h : List (Exchange Hardware)} (hh : ∀ x ∈ h, Minor x.call) :
    restarts h = 0 := by
  refine List.countP_eq_zero.2 fun x hx => ?_
  have hminor := hh x hx
  cases hc : x.call with
  | restart => exact (hc ▸ hminor : Minor .restart).elim
  | _ => exact Bool.false_ne_true

lemma log_minor (d : Device) (level : Log.Level) (tag message : Bytes) :
    (Hardware.log level tag message >>= fun _ => pure d).Confined
      (fun c => Minor c ∧ Flash.Spared c) (· = d) :=
  ⟨⟨trivial, trivial⟩, fun _ => rfl⟩

/-- A submission is stored and a restart is due, or nothing is different. -/
lemma applySubmission_ensures (hr : d.rebootPending = false) (s : Flash) (sub : Submission) :
    d.applySubmission.Ensures (Submission.surroundings long)
      (fun d' w => Stored (d.configWith sub) s d' w ∨ d' = d ∧ Unstored (d.configWith sub) s w)
      (s, some sub, []) := by
  rintro o ⟨s', m, h⟩ ⟨hs, ⟨ho, -⟩, hh⟩
  obtain rfl : s' = s := hs
  obtain rfl : o = some sub := ho
  have hminor : ∀ x ∈ h, Minor x.call := by
    obtain rfl : h = [⟨.take, some sub⟩] := hh
    simp [Minor]
  change (ite _ _ _ : Program Hardware Device).Ensures _ _ _
  split
  · rename_i hc
    have hc : ¬(d.configWith sub).complete = true := by simpa using hc
    refine (minor_ensures (log_minor d .warning _ _) s' m hminor).mono ?_
    rintro d' w ⟨rfl, hs, hm⟩
    exact .inr ⟨rfl, by rw [if_neg hc, hs], hm, by rw [hs]⟩
  · rename_i hc
    have hc : (d.configWith sub).complete = true := by simpa using hc
    -- the save is followed by the storage and by the exchanges side by side; they share its result
    refine ((Store.save_newest s' hc).both
      ((ensures_true _ m).both ((save_minor _).calls hminor))).bind ?_
    rintro e ⟨s, m, h⟩ ⟨⟨f, hfates, he, hnewest⟩, -, -, hminor⟩
    cases e with
    | none =>
      obtain rfl : f = .complete := he.1 rfl
      refine (goOffline_reboot hr .configSaved s m h).mono ?_
      rintro d' w ⟨hpending, hs, hrestart⟩
      rw [restarts_of_minor hminor] at hrestart
      exact .inl ⟨hc, hs ▸ hfates, hpending, hrestart, hs ▸ hnewest⟩
    | some e =>
      have hf : f ≠ .complete := fun hf => nomatch he.2 hf
      refine (minor_ensures (log_minor d .error _ _) s m hminor).mono ?_
      rintro d' w ⟨rfl, hs, hm⟩
      refine .inr ⟨rfl, by rw [if_pos hc, hs]; exact ⟨f, hf, hfates⟩, hm, ?_⟩
      rw [hs, hnewest, if_neg hf]

/-! ### The outcome -/

/-- A restart comes once, and after it any new device starts with the configuration submitted: it
has one, locks the door in the polarity of that one and asks the radio for its network only. -/
structure Applied (long : Bytes → Nat → Bytes → Prop) (next : Config) (w : Submission.World) :
    Prop where
  restart : restarts w.2.2 = 1
  boot : ∀ (t : Timing) (now : Clock), ((new t).start now).Ensures
    ((Flash.surroundings (.untorn long)).both (.history Hardware)) (fun d v =>
      d.hasConfig = true ∧ Strike.levels v.2 = [next.lockActiveHigh] ∧
        Link.roles v.2 = [.startStation next.wifiSsid.view next.wifiPass.view]) (w.1, [])

/-- No pin, radio or transport was called and no restart asked for, the parts are as they were, and
what was to load is still to load. -/
structure Dismissed (long : Bytes → Nat → Bytes → Prop) (s : Flash) (d d' : Device)
    (w : Submission.World) : Prop where
  minor : ∀ x ∈ w.2.2, Minor x.call
  strike : d'.strike = d.strike
  link : d'.link = d.link
  session : d'.session = d.session
  load : ∃ c, ∀ v ∈ [s, w.1],
    Store.load.Ensures (Flash.surroundings (.untorn long)) (fun r _ => r = c) v

lemma Stored.applied {next : Config} {s : Flash} {w : Submission.World}
    (h : Stored next s d w) : Applied long next w where
  restart := h.restart
  boot t now := by
    have hload := Store.load_newest w.1 (Flash.Rules.readsFit_untorn long)
    rw [h.newest] at hload
    refine (start_boots now hload t).mono ?_
    rintro d v ⟨hconfig, hlevels, hroles⟩
    have hsame := Config.same_normal h.complete
    simp only [Config.same, Bool.and_eq_true, Text.same_iff] at hsame
    obtain ⟨⟨⟨⟨⟨⟨⟨⟨⟨hssid, hpass⟩, -⟩, -⟩, -⟩, -⟩, -⟩, -⟩, -⟩, -⟩ := hsame
    simp only [Link.roleOf, hssid, hpass] at hroles
    exact ⟨hconfig, hlevels, hroles⟩

lemma conclude_dismissed (hr : d.rebootPending = false) {next : Config} {s : Flash}
    {w : Submission.World} (h : Unstored next s w) : d.conclude.Ensures (Submission.surroundings long)
      (fun r v => v.1 = w.1 ∧ Dismissed long s d r.2 v) w := by
  have hrefresh : (d.refresh d.now).Confined (fun c => Minor c ∧ Flash.Spared c) fun d' =>
      d'.strike = d.strike ∧ d'.link = d.link ∧ d'.session = d.session := by
    refine (d.indicator.apply_confined _ _).within (fun c hc => ?_) fun _ _ => ⟨rfl, rfl, rfl⟩
    cases c <;> first | exact ⟨trivial, trivial⟩ | exact hc.elim
  have hconclude : d.conclude.Confined (fun c => Minor c ∧ Flash.Spared c) fun r =>
      r.2.strike = d.strike ∧ r.2.link = d.link ∧ r.2.session = d.session := by
    unfold conclude
    rw [if_neg (by simp [hr])]
    exact hrefresh.bind fun _ h => h
  refine (minor_ensures hconclude w.1 w.2.1 h.minor).mono ?_
  rintro r v ⟨⟨hstrike, hlink, hsession⟩, hs, hminor⟩
  refine ⟨hs, hminor, hstrike, hlink, hsession, s.newest, ?_⟩
  have hload (v : Flash) (hv : v.newest = s.newest) :
      Store.load.Ensures (Flash.surroundings (.untorn long)) (fun r _ => r = s.newest) v :=
    hv ▸ Store.load_newest v (Flash.Rules.readsFit_untorn long)
  rw [hs]
  simpa using ⟨hload s rfl, hload w.1 h.newest⟩

/-- Whether a submission is applied is decided by whether it comes to a complete configuration and
the one write of that one goes through. -/
lemma handle_submission (hr : d.rebootPending = false) {e : Event} (he : e.kind = .configSubmitted)
    (s : Flash) (sub : Submission) :
    (d.handle e).Ensures (Submission.surroundings long) (fun r w =>
      let next := d.configWith sub
      (if next.complete then ∃ f, w.1.fates = f :: s.fates else w.1.fates = s.fates) ∧
      if next.complete ∧ w.1.fates = .complete :: s.fates then Applied long next w
      else Dismissed long s d r.2 w) (s, some sub, []) := by
  have hreact : d.react e = d.applySubmission := by simp only [react, he]
  rw [handle_eq hr, hreact]
  refine (applySubmission_ensures hr s sub).bind ?_
  rintro d' w (h | ⟨rfl, h⟩)
  · unfold conclude
    rw [if_pos h.pending]
    refine ⟨?_, ?_⟩
    · rw [if_pos h.complete]
      exact ⟨_, h.fates⟩
    · rw [if_pos ⟨h.complete, h.fates⟩]
      exact h.applied
  · refine (conclude_dismissed hr h).mono ?_
    rintro r v ⟨hs, hdismissed⟩
    have hfates := h.fates
    rw [← hs] at hfates
    dsimp only
    split at hfates
    · rename_i hc
      obtain ⟨f, hf, hfates⟩ := hfates
      rw [if_pos hc, if_neg (by rw [hfates]; simp [hf])]
      exact ⟨⟨f, hfates⟩, hdismissed⟩
    · rename_i hc
      rw [if_neg hc, if_neg (fun h => hc h.1)]
      exact ⟨hfates, hdismissed⟩

end Device

namespace Life

/-- What a submission comes to on the configuration that was loaded, or on the default one; the
identity `id` of the hardware stands in for an absent one. -/
def submitted (l : Life) (id : Bytes) (sub : Submission) : Config :=
  let next := (l.loaded.getD {}).merge sub
  if next.deviceId.view = [] then { next with deviceId := .ofBytes id } else next

lemma Standing.configWith {t : Timing} {l : Life} {h : List (Exchange Hardware)}
    (hl : l.Standing t h) (hr : l.device.rebootPending = false) (sub : Submission) :
    l.device.configWith sub = l.submitted l.device.deviceId sub := by
  have hconfig : (if l.device.hasConfig then l.device.config else {}) = l.loaded.getD {} := by
    rw [hl.device.hasConfig hr, hl.device.config hr]
    cases l.loaded <;> rfl
  rw [Device.configWith, hconfig, submitted]

/-- **A submission is applied or dismissed**: after any operations, whatever the hardware answered,
a device that no restart is due for takes a submission, over any storage that reads faithfully and
writes completely or not at all. It is applied if it comes to a complete configuration and the write
of that one goes through; in every other case it is dismissed. -/
theorem submission_applied_or_dismissed (t : Timing) (now : Clock) (steps : List Device.Step)
    (long : Bytes → Nat → Bytes → Prop) :
    (begin t now >>= fun l => l.run steps).Ensures (.history Hardware) (fun l h =>
      ∃ id, ⟨.deviceId 16, id⟩ ∈ h ∧ ∀ (e : Event) (s : Flash) (sub : Submission),
        l.device.rebootPending = false → e.kind = .configSubmitted →
        (l.device.handle e).Ensures (Submission.surroundings long) (fun r w =>
          let next := l.submitted id sub
          (if next.complete then ∃ f, w.1.fates = f :: s.fates else w.1.fates = s.fates) ∧
          if next.complete ∧ w.1.fates = .complete :: s.fates then Device.Applied long next w
          else Device.Dismissed long s l.device r.2 w) (s, some sub, [])) [] := by
  refine (run_standing t now steps).mono fun l h hl => ?_
  refine ⟨l.device.deviceId, hl.identity, fun e s sub hr he => ?_⟩
  rw [← hl.configWith hr]
  exact Device.handle_submission hr he s sub

end Life

end DoorControl
