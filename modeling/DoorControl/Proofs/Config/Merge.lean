import DoorControl.Config.Submission
import DoorControl.Proofs.Config.Record

/-!
What a submission comes to once it is merged. Edits that are collected in a submission and merged
come to the same as edits of the configuration itself. A submission of a whole configuration
replaces every field but one: an empty broker user does not count as supplied.
-/

namespace DoorControl

open Bytes

/-! ### Texts over texts -/

namespace Text

variable {w : Nat} {new old : Text w}

lemma over_absent (h : new.present = false) : new.over old = old := by
  simp [Text.over, h]

lemma present_blank : (blank : Text w).present = false := by
  have hview : (blank : Text w).view = [] := untilNul_append_zeros (List.not_mem_nil) w
  simp [present, hview]

lemma present_iff (h : new.terminated) : new.present = true ↔ new.view ≠ [] := by
  simp [present, h]

lemma over_ofBytes {v : Bytes} (hfits : fits w v) (hv : v ≠ []) (h0 : 0 ∉ v) :
    (ofBytes v).over old = ofBytes v := by
  have hview : (ofBytes v : Text w).view = v := by rw [view_ofBytes h0, clip_eq_self hfits]
  have hterm : (ofBytes v : Text w).terminated = true := by
    rw [terminated_iff, hview]
    exact fits_iff.1 hfits
  have hpresent : (ofBytes v : Text w).present = true := by rwa [present_iff hterm, hview]
  rw [Text.over, if_pos hpresent, normal, hview]

lemma same_over_present (h : new.present) : (new.over old).same new = true := by
  have hterm : new.terminated = true := (Bool.and_eq_true _ _ ▸ h).1
  rw [Text.over, if_pos h]
  exact same_normal hterm

end Text

/-! ### Edits of a submission -/

namespace Config

variable {base : Config} {s : Submission} {key value : Bytes}

lemma merge_new : base.merge {} = base := by
  simp [merge, Text.over_absent Text.present_blank]

/-- A value that is set in a submission is set where the submission is merged. -/
lemma set?_merge (f : Field) (hvalue : value ≠ []) (h0 : 0 ∉ value) :
    (base.merge s).set? f value =
      (s.values.set? f value).map fun c => base.merge ({ s with values := c }.mark f) := by
  have htext {w : Nat} {t : Text w} (ht : Text.ofBytes? value = some t) (old : Text w) :
      t.over old = t := by
    simp only [Text.ofBytes?, Option.ite_none_right_eq_some, Option.some.injEq] at ht
    obtain ⟨hfits, rfl⟩ := ht
    exact Text.over_ofBytes hfits hvalue h0
  -- A port or a switch counts as supplied by its mark, a text by being there.
  cases f with
  | mqttPort => simp only [set?, Option.map_map]; rfl
  | mqttTls => simp only [set?, Option.map_map]; rfl
  | lockActiveHigh => simp only [set?, Option.map_map]; rfl
  | _ =>
    simp only [set?, Option.map_map]
    refine Option.map_congr fun t ht => ?_
    simp only [merge, Submission.mark, Function.comp_apply, htext ht]
    rfl

lemma edit?_merge (h0 : 0 ∉ value) :
    (base.merge s).edit? key value = (s.edit? key value).map base.merge := by
  unfold edit? Submission.edit?
  cases Field.ofKey? key with
  | none => rfl
  | some f =>
    by_cases hvalue : value = []
    · simp [hvalue]
    · simp [hvalue, set?_merge f hvalue h0, Function.comp_def]

/-- **One edit** of a submission comes to an edit of the configuration it is merged with. -/
lemma editWith?_merge (base : Config) (s : Submission) (key : Option Bytes) {value : Option Bytes}
    (h0 : 0 ∉ value.getD []) :
    (base.merge s).editWith? key value = (s.editWith? key value).map base.merge := by
  cases key with
  | none => rfl
  | some key =>
    cases value with
    | none => rfl
    | some value => exact edit?_merge h0

/-! ### Many edits -/

/-- The configuration after all the edits. -/
def edited (c : Config) (pairs : List (Option Bytes × Option Bytes)) : Config :=
  ((c.edits pairs).map Prod.snd).getLastD c

variable {pairs : List (Option Bytes × Option Bytes)}

lemma edited_cons (c : Config) (p : Option Bytes × Option Bytes) :
    c.edited (p :: pairs) = ((c.editWith? p.1 p.2).getD c).edited pairs := by
  rw [edited, edited, edits, List.map_cons, List.getLastD_cons]

/-- **Any edits** of a submission are answered as they would be by the configuration that it is
merged with, and come to the same. -/
lemma edits_merge (base : Config) (s : Submission) (hpairs : ∀ p ∈ pairs, 0 ∉ p.2.getD []) :
    base.merge (s.edits pairs).2 = (base.merge s).edited pairs ∧
      (s.edits pairs).1 = ((base.merge s).edits pairs).map Prod.fst := by
  induction pairs generalizing s with
  | nil => exact ⟨rfl, rfl⟩
  | cons p pairs ih =>
    rw [List.forall_mem_cons] at hpairs
    have hedit := editWith?_merge base s p.1 hpairs.1
    have hnext : ((base.merge s).editWith? p.1 p.2).getD (base.merge s) =
        base.merge ((s.editWith? p.1 p.2).getD s) := by
      rw [hedit, Option.getD_map]
    -- Both ways go on from where merging takes the one to the other again.
    obtain ⟨hmerged, hanswers⟩ := ih ((s.editWith? p.1 p.2).getD s) hpairs.2
    rw [edited_cons, hnext]
    refine ⟨hmerged, ?_⟩
    simp only [Submission.edits, edits, List.map_cons, hnext, ← hanswers]
    rw [hedit, Option.isSome_map]

lemma edits_refused {c c' : Config} {i : Nat} (h : (c.edits pairs)[i]? = some (false, c')) :
    c' = c.edited (pairs.take i) := by
  induction pairs generalizing c i with
  | nil => simp [edits] at h
  | cons p pairs ih =>
    cases i with
    | zero =>
      simp only [edits, List.getElem?_cons_zero, Option.some.injEq, Prod.mk.injEq,
        Option.isSome_eq_false_iff, Option.isNone_iff_eq_none] at h
      rw [← h.2, h.1]
      rfl
    | succ i =>
      rw [List.take_succ_cons, edited_cons]
      exact ih h

end Config

namespace Submission

variable {pairs : List (Option Bytes × Option Bytes)}

lemma edits_refused {s : Submission} {i : Nat} (h : (s.edits pairs).1[i]? = some false) :
    (s.edits (pairs.take (i + 1))).2 = (s.edits (pairs.take i)).2 := by
  induction pairs generalizing s i with
  | nil => rw [List.take_nil, List.take_nil]
  | cons p pairs ih =>
    cases i with
    | zero =>
      simp only [edits, List.getElem?_cons_zero, Option.some.injEq, Option.isSome_eq_false_iff,
        Option.isNone_iff_eq_none] at h
      simp [edits, h]
    | succ i => exact ih h

end Submission

/-! ### Main results -/

namespace Config

/-- **Submitting is editing**: edits by key, collected in a fresh submission and merged over a
configuration, come to what the same edits make of the configuration itself. Each is answered the
same both ways, and a refused one changes neither the configuration nor the submission. -/
theorem submitting_is_editing (base : Config) {pairs : List (Option Bytes × Option Bytes)}
    (hpairs : ∀ p ∈ pairs, 0 ∉ p.2.getD []) :
    base.merge (({} : Submission).edits pairs).2 = base.edited pairs ∧
    (({} : Submission).edits pairs).1 = (base.edits pairs).map Prod.fst ∧
    ∀ i c, (base.edits pairs)[i]? = some (false, c) →
      c = base.edited (pairs.take i) ∧
        (({} : Submission).edits (pairs.take (i + 1))).2 =
          (({} : Submission).edits (pairs.take i)).2 := by
  obtain ⟨hmerged, hanswers⟩ := edits_merge base {} hpairs
  rw [merge_new] at hmerged hanswers
  refine ⟨hmerged, hanswers, fun i c hc => ⟨edits_refused hc, Submission.edits_refused ?_⟩⟩
  rw [hanswers, List.getElem?_map, hc]
  rfl

/-- A field is set twice, values are empty, out of range or no switch, and keys are unknown or
absent. -/
theorem submitting_is_editing_mixed :
    let pairs := [("wifi_ssid", "home"), ("mqtt_port", "0"), ("wifi_ssid", ""), ("colour", "red"),
      ("mqtt_tls", "maybe"), ("mqtt_tls", " On"), ("wifi_ssid", "office")].map
        (fun (k, v) => (some (ascii k), some (ascii v))) ++ [(none, some (ascii "x"))]
    let base : Config := { mqttUser := .ofBytes (ascii "door") }
    ((∀ p ∈ pairs, 0 ∉ p.2.getD []) ∧
      (base.edits pairs).map Prod.fst = [true, false, true, false, false, true, true, false]) ∧
    base.merge (({} : Submission).edits pairs).2 = base.edited pairs ∧
    (({} : Submission).edits pairs).1 = (base.edits pairs).map Prod.fst ∧
    ∀ i c, (base.edits pairs)[i]? = some (false, c) →
      c = base.edited (pairs.take i) ∧
        (({} : Submission).edits (pairs.take (i + 1))).2 =
          (({} : Submission).edits (pairs.take i)).2 := by
  intro pairs base
  exact ⟨by decide +kernel, submitting_is_editing base (by decide +kernel)⟩

end Config

/-! ### Submissions of a whole configuration -/

namespace Config

variable {c : Config}

/-- What a submission of a complete configuration comes to: that configuration, with the former
broker user where it names none. -/
lemma same_merge_full (base : Config) (hc : c.complete) : (base.merge (.full c)).same
    { c with mqttUser := if c.mqttUser.view = [] then base.mqttUser else c.mqttUser } = true := by
  simp only [complete, Bool.and_eq_true] at hc
  obtain ⟨⟨⟨⟨⟨⟨⟨ssid, pass⟩, host⟩, brokerPass⟩, user⟩, id⟩, name⟩, -⟩ := hc
  have huser : (c.mqttUser.over base.mqttUser).same
      (if c.mqttUser.view = [] then base.mqttUser else c.mqttUser) = true := by
    by_cases h : c.mqttUser.view = []
    · have habsent : c.mqttUser.present = false := by simp [Text.present, h]
      rw [if_pos h, Text.over_absent habsent, Text.same_iff]
    · rw [if_neg h]
      exact Text.same_over_present ((Text.present_iff user).2 h)
  simp [same, merge, Submission.full, huser, Text.same_over_present ssid,
    Text.same_over_present pass, Text.same_over_present host, Text.same_over_present brokerPass,
    Text.same_over_present id, Text.same_over_present name]

/-- **A whole configuration replaces another one but for its broker user**: a submission of a
complete configuration replaces every field, except that the former user stays where the
configuration names none. So it replaces everything exactly when it names a user or there was none
before. -/
theorem full_submission_same_iff (base : Config) {c : Config} (hc : c.complete) :
    (base.merge (.full c)).same
      { c with mqttUser := if c.mqttUser.view = [] then base.mqttUser else c.mqttUser } = true ∧
    ((base.merge (.full c)).same c = true ↔ c.mqttUser.view ≠ [] ∨ base.mqttUser.view = []) := by
  have hsame := same_merge_full base hc
  refine ⟨hsame, ?_⟩
  simp only [same, Bool.and_eq_true, Text.same_iff] at hsame ⊢
  obtain ⟨⟨⟨⟨⟨⟨⟨⟨⟨ssid, pass⟩, host⟩, port⟩, user⟩, brokerPass⟩, tls⟩, id⟩, name⟩, lock⟩ := hsame
  simp only [ssid, pass, host, port, user, brokerPass, tls, id, name, lock]
  by_cases h : c.mqttUser.view = []
  · simp [h]
  · simp [h]

/-- A complete configuration without a broker user. -/
def anonymous : Config where
  wifiSsid := .ofBytes (ascii "home")
  wifiPass := .ofBytes (ascii "secret")
  mqttHost := .ofBytes (ascii "broker")
  mqttPass := .ofBytes (ascii "pw")
  deviceId := .ofBytes (ascii "front1")
  deviceName := .ofBytes (ascii "Front Door")

/-- Over a configuration that names no user either, it replaces everything. -/
theorem full_submission_same_anonymous :
    anonymous.complete = true ∧
    (Config.merge {} (.full anonymous)).same
      { anonymous with
        mqttUser := if anonymous.mqttUser.view = [] then .blank else anonymous.mqttUser } = true ∧
    ((Config.merge {} (.full anonymous)).same anonymous = true ↔
      anonymous.mqttUser.view ≠ [] ∨ (.blank : Text 64).view = []) := by
  have hcomplete : anonymous.complete = true := by decide +kernel
  exact ⟨hcomplete, full_submission_same_iff {} hcomplete⟩

/-- The former user stays where a complete configuration without one is submitted. -/
theorem former_user_stays :
    ¬∀ base c : Config, c.complete = true → (base.merge (.full c)).same c = true := by
  intro h
  have hsame := h { mqttUser := .ofBytes (ascii "door") } anonymous (by decide +kernel)
  exact absurd hsame (by decide +kernel)

end Config

end DoorControl
