import Mathlib.Data.List.Chain
import DoorControl.Indicator
import DoorControl.Proofs.Clock
import DoorControl.Proofs.Program

/-!
What the status light shows, told from all that was done to it since its start. The indicator
itself keeps only the pattern, whether it is lit, a time on a clock that wraps, and the colour last
written.
-/

namespace DoorControl

open Program

namespace Indicator

/-- What is done to an indicator once it was started. -/
inductive Operation
  | apply (p : LightPattern)
  | update

/-- Carries an operation out. Only taking a pattern up has an answer. -/
def perform (t : Timing) (s : Indicator) (now : Clock) :
    Operation → Program Hardware (Option Bool × Indicator)
  | .apply p => do
    let r ← s.apply p now
    pure (some r.1, r.2)
  | .update => do
    let s ← s.update t now
    pure (none, s)

/-- The red, green and blue of a colour. -/
def shade (intensity : UInt8) (c : LightColor) : UInt8 × UInt8 × UInt8 :=
  if c = .red then (intensity, 0, 0)
  else if c = .green then (0, intensity, 0)
  else if c = .amber then (intensity, intensity / 2, 0)
  else (0, 0, 0)

/-- The call that gives a colour to the light. -/
def paint (intensity : UInt8) (c : LightColor) : Hardware.Call :=
  .light (shade intensity c).1 (shade intensity c).2.1 (shade intensity c).2.2

/-- The start or an operation: when it was, in milliseconds that never wrap, what was called and
answered, and what the indicator says of itself then. -/
structure Frame where
  time : Nat
  /-- The operation, unless it was the start. -/
  op : Option Operation
  answer : Option Bool
  calls : List Hardware.Call
  pattern : LightPattern
  lit : Bool

namespace Frame

/-- The frame of something that is over, with its exchanges. -/
def taken (time : Nat) (op : Option Operation) (answer : Option Bool)
    (h : List (Exchange Hardware)) (s : Indicator) : Frame :=
  ⟨time, op, answer, h.map (·.call), s.pattern, s.lit⟩

/-- The colour that is to be seen. -/
def color (x : Frame) : LightColor := if x.lit then x.pattern.color else .off

/-- The colour that was sent to the light, if any was. -/
def sent (x : Frame) : Option LightColor := if x.calls.isEmpty then none else some x.color

/-- How long the light stays as it is while the pattern blinks. -/
def span (t : Timing) (x : Frame) : Nat := (if x.lit then t.blinkOn else t.blinkOff).toNat

/-- What became of the frame before, in which the light had been as it was since some time. -/
def Follows (t : Timing) (x y : Frame) (since : Nat) : Prop :=
  match x.op with
  | none => False
  | some (.apply p) => x.pattern = p ∧ x.answer = some (decide (p ≠ y.pattern)) ∧
      if p = y.pattern then x.lit = y.lit ∧ x.calls = [] else x.lit = true
  | some .update => x.pattern = y.pattern ∧ x.answer = none ∧
      (x.lit ≠ y.lit ↔ y.pattern.blink = true ∧ since + y.span t ≤ x.time)

end Frame

/-! Frames one after another, the newest first. -/

/-- Since when there is this pattern, lit or dark as it is. -/
def since : List Frame → Nat
  | [] => 0
  | [x] => x.time
  | x :: y :: older => if x.pattern = y.pattern ∧ x.lit = y.lit then since (y :: older) else x.time

/-- The colours that were sent to the light. -/
def colors (film : List Frame) : List LightColor := film.filterMap Frame.sent

/-- The start showed steady red, and each operation did what it should. -/
def Exact (t : Timing) : List Frame → Prop
  | [] => True
  | [x] => x.op = none ∧ x.pattern = ⟨.red, false⟩ ∧ x.lit = true
  | x :: y :: older => x.Follows t y (since (y :: older)) ∧ Exact t (y :: older)

/-- The light shows what the indicator believes. -/
structure Faithful (t : Timing) (intensity : UInt8) (film : List Frame) : Prop where
  exact : Exact t film
  steady : ∀ x ∈ film, x.pattern.blink = false → x.lit = true
  /-- Nothing but the colour to be seen is ever written. -/
  painted : ∀ x ∈ film, x.calls = [] ∨ x.calls = [paint intensity x.color]
  /-- The last colour sent is the one to be seen. -/
  shown : (colors film).head? = film.head?.map Frame.color
  /-- No colour is sent twice in a row. -/
  fresh : (colors film).IsChain (· ≠ ·)

/-- Whatever is answered, `post` holds of the frames after operations with these gaps before
them. -/
def Throughout (t : Timing) (post : List Frame → Prop) :
    List (Nat × Operation) → Nat → Indicator → List Frame → Prop
  | [], _, _, film => post film
  | (gap, op) :: rest, now, s, film =>
    (s.perform t (.ofNat (now + gap)) op).Ensures (.history Hardware)
      (fun r h => Throughout t post rest (now + gap) r.2
        (.taken (now + gap) (some op) r.1 h r.2 :: film)) []

/-- Updates come less than 2^31 after the update before or after their pattern was taken up, where
that is some time ago already. To apply the pattern that there is makes no difference. -/
def Timely : LightPattern → Nat → List (Nat × Operation) → Prop
  | _, _, [] => True
  | p, idle, (gap, .update) :: rest => idle + gap < 2 ^ 31 ∧ Timely p 0 rest
  | p, idle, (gap, .apply q) :: rest =>
    if q = p then Timely p (idle + gap) rest else Timely q 0 rest

variable {t : Timing} {s s' : Indicator} {h : List (Exchange Hardware)}

/-! ### What an operation does -/

/-- The colour that is wanted to be seen. -/
def wanted (s : Indicator) : LightColor := if s.lit then s.pattern.color else .off

/-- What is wanted is shown, and was written unless it was there already. -/
def Displays (s s' : Indicator) (h : List (Exchange Hardware)) : Prop :=
  s' = { s with shown := some s.wanted } ∧
    h.map (·.call) = if s.shown = some s.wanted then [] else [paint s.intensity s.wanted]

lemma write_eq (intensity : UInt8) (c : LightColor) :
    write intensity c = Hardware.light (shade intensity c).1 (shade intensity c).2.1
      (shade intensity c).2.2 := by
  unfold write shade
  split_ifs <;> rfl

lemma display_displays (s : Indicator) :
    (s.display s.wanted).Ensures (.history Hardware) s.Displays [] := by
  unfold display
  split
  · rename_i hshown
    refine ⟨?_, by rw [if_pos hshown]; rfl⟩
    rw [← hshown]
  · rename_i hshown
    rw [write_eq]
    rintro _ _ rfl
    exact ⟨rfl, by rw [if_neg hshown]; rfl⟩

lemma apply_displays (s : Indicator) (p : LightPattern) (now : Clock) :
    (s.apply p now).Ensures (.history Hardware) (fun r h =>
      if p = s.pattern then r = (false, s) ∧ h = []
      else r.1 = true ∧ Displays { s with pattern := p, lit := true, phase := now } r.2 h) [] := by
  unfold apply
  split
  · exact ⟨rfl, rfl⟩
  · exact (display_displays _).bind fun s' h hs => ⟨rfl, hs⟩

/-- A light that blinks is due to flip by the clock. -/
def FlipsAt (t : Timing) (s : Indicator) (now : Clock) : Prop :=
  s.pattern.blink = true ∧ s.span t ≤ now - s.phase

lemma update_displays (t : Timing) (s : Indicator) (now : Clock) :
    (s.update t now).Ensures (.history Hardware) (fun s' h =>
      (s.FlipsAt t now ∧ Displays { s with lit := !s.lit, phase := now } s' h) ∨
      (¬s.FlipsAt t now ∧ s' = s ∧ h = [])) [] := by
  unfold update
  split
  · rename_i hsteady
    exact .inr ⟨fun hf => by simp [hf.1] at hsteady, rfl, rfl⟩
  rename_i hblink
  split
  · rename_i hearly
    exact .inr ⟨fun hf => UInt32.not_lt.2 hf.2 hearly, rfl, rfl⟩
  · rename_i hdue
    have hflips : s.FlipsAt t now := ⟨by simpa using hblink, UInt32.not_lt.1 hdue⟩
    have hwanted : (if s.lit then .off else s.pattern.color) =
        wanted { s with lit := !s.lit, phase := now } := by
      simp only [wanted]
      cases s.lit <;> rfl
    rw [hwanted]
    exact (display_displays _).mono fun s' h hs => .inl ⟨hflips, hs⟩

/-! ### The indicator and its frames -/

variable {intensity : UInt8} {idle : Nat} {x y : Frame} {older : List Frame}

lemma Frame.sent_eq (hx : x.calls = if y.color = x.color then [] else [paint intensity x.color]) :
    x.sent = if y.color = x.color then none else some x.color := by
  rw [sent, hx]
  split <;> rfl

lemma Faithful.cons (hf : Faithful t intensity (y :: older))
    (hx : x.Follows t y (since (y :: older))) (hsteady : x.pattern.blink = false → x.lit = true)
    (hcalls : x.calls = if y.color = x.color then [] else [paint intensity x.color]) :
    Faithful t intensity (x :: y :: older) where
  exact := ⟨hx, hf.exact⟩
  steady := List.forall_mem_cons.2 ⟨hsteady, hf.steady⟩
  painted := by
    refine List.forall_mem_cons.2 ⟨?_, hf.painted⟩
    rw [hcalls]
    split
    · exact .inl rfl
    · exact .inr rfl
  shown := by
    have hshown := hf.shown
    have hsent := Frame.sent_eq hcalls
    split at hsent
    · rename_i hsame
      rw [colors, List.filterMap_cons_none hsent, ← colors, hshown]
      exact congrArg some hsame
    · rw [colors, List.filterMap_cons_some hsent]
      rfl
  fresh := by
    have hsent := Frame.sent_eq hcalls
    split at hsent
    · rw [colors, List.filterMap_cons_none hsent]
      exact hf.fresh
    · rename_i hnew
      rw [colors, List.filterMap_cons_some hsent]
      refine List.isChain_cons.2 ⟨fun c hc => ?_, hf.fresh⟩
      rw [← colors, hf.shown] at hc
      obtain rfl := Option.some.inj hc
      exact Ne.symm hnew

/-- Between operations: the indicator goes by the newest frame, and the clock will tell right how
long the light has been as it is, where nothing was heeded for some time. -/
structure Kept (t : Timing) (intensity : UInt8) (idle : Nat) (s : Indicator) (x : Frame)
    (older : List Frame) : Prop where
  level : s.intensity = intensity
  pattern : s.pattern = x.pattern
  lit : s.lit = x.lit
  shown : s.shown = some x.color
  phase : s.phase = .ofNat (since (x :: older))
  past : since (x :: older) + idle ≤ x.time
  young : x.pattern.blink = true → x.time < since (x :: older) + idle + 2 ^ 31
  faithful : Faithful t intensity (x :: older)

variable {time gap : Nat} {op : Option Operation} {answer : Option Bool} {p : LightPattern}

lemma Kept.still (hk : Kept t intensity idle s y older)
    (hx : Frame.Follows t ⟨time, op, answer, [], s.pattern, s.lit⟩ y (since (y :: older)))
    {idle' : Nat} (hpast : since (y :: older) + idle' ≤ time)
    (hyoung : y.pattern.blink = true → time < since (y :: older) + idle' + 2 ^ 31) :
    Kept t intensity idle' s (.taken time op answer [] s) (y :: older) := by
  have hcolor : Frame.color (.taken time op answer [] s) = y.color := by
    simp only [Frame.color, Frame.taken, hk.pattern, hk.lit]
  have hsince : since (.taken time op answer [] s :: y :: older) = since (y :: older) :=
    if_pos ⟨hk.pattern, hk.lit⟩
  refine ⟨hk.level, rfl, rfl, hcolor ▸ hk.shown, hsince ▸ hk.phase, hsince ▸ hpast, ?_,
    hk.faithful.cons hx ?_ (if_pos hcolor.symm).symm⟩
  · rw [hsince, Frame.taken, hk.pattern]
    exact hyoung
  · rw [Frame.taken, hk.pattern, hk.lit]
    exact hk.faithful.steady y List.mem_cons_self

lemma Kept.turn {lit : Bool} (hk : Kept t intensity idle s y older)
    (hs : Displays { s with pattern := p, lit := lit, phase := .ofNat time } s' h)
    (hx : Frame.Follows t ⟨time, op, answer, h.map (·.call), p, lit⟩ y (since (y :: older)))
    (hnew : ¬(p = y.pattern ∧ lit = y.lit)) (hsteady : p.blink = false → lit = true) :
    Kept t intensity 0 s' (.taken time op answer h s') (y :: older) := by
  obtain ⟨rfl, hcall⟩ := hs
  have hsince : since (⟨time, op, answer, h.map (·.call), p, lit⟩ :: y :: older) = time :=
    if_neg hnew
  refine ⟨hk.level, rfl, rfl, rfl, congrArg UInt32.ofNat hsince.symm, Nat.le_of_eq hsince, ?_,
    hk.faithful.cons hx hsteady ?_⟩
  · intro _
    change time < since (⟨time, op, answer, h.map (·.call), p, lit⟩ :: y :: older) + 0 + 2 ^ 31
    omega
  · simp only [hk.shown, hk.level, Option.some.injEq] at hcall
    exact hcall

/-- As long as updates come in time, the clock tells right whether the light is due to flip. -/
lemma Kept.flipsAt_iff (hk : Kept t intensity idle s y older) (hgap : idle + gap < 2 ^ 31) :
    s.FlipsAt t (.ofNat (y.time + gap)) ↔
      y.pattern.blink = true ∧ since (y :: older) + y.span t ≤ y.time + gap := by
  have hspan : (s.span t).toNat = y.span t := by rw [Indicator.span, Frame.span, hk.lit]
  rw [FlipsAt, hk.pattern, hk.phase, UInt32.le_iff_toNat_le, hspan]
  refine and_congr_right fun hblink => ?_
  have hpast := hk.past
  have hyoung := hk.young hblink
  rw [Clock.toNat_sub_ofNat (by omega) (by omega)]
  omega

lemma Frame.span_lt (hon : t.blinkOn < 0x80000000) (hoff : t.blinkOff < 0x80000000) (x : Frame) :
    x.span t < 2 ^ 31 := by
  unfold Frame.span
  split
  · exact UInt32.lt_iff_toNat_lt.1 hon
  · exact UInt32.lt_iff_toNat_lt.1 hoff

lemma Kept.apply (hk : Kept t intensity idle s y older) (p : LightPattern) (gap : Nat) :
    (s.perform t (.ofNat (y.time + gap)) (.apply p)).Ensures (.history Hardware)
      (fun r h => Kept t intensity (if p = y.pattern then idle + gap else 0) r.2
        (.taken (y.time + gap) (some (.apply p)) r.1 h r.2) (y :: older)) [] := by
  refine (apply_displays s p _).bind ?_
  rintro ⟨changed, s'⟩ h hr
  rw [hk.pattern] at hr
  split at hr
  · rename_i hsame
    obtain ⟨⟨rfl, rfl⟩, rfl⟩ := hr
    have hpast := hk.past
    have hyoung := hk.young
    have hx : Frame.Follows t ⟨y.time + gap, some (.apply p), some false, [], s.pattern, s.lit⟩ y
        (since (y :: older)) := by
      refine ⟨hk.pattern.trans hsame.symm, by simp [hsame], ?_⟩
      rw [if_pos hsame]
      exact ⟨hk.lit, rfl⟩
    rw [if_pos hsame]
    exact hk.still hx (by omega) fun hblink => by
      have := hyoung hblink
      omega
  · rename_i hnew
    obtain ⟨rfl, hdisplays⟩ := hr
    rw [if_neg hnew]
    refine hk.turn hdisplays ⟨rfl, ?_, ?_⟩ (fun h => hnew h.1) fun _ => rfl
    · simp [hnew]
    · rw [if_neg hnew]

lemma Kept.update (hk : Kept t intensity idle s y older) (hon : t.blinkOn < 0x80000000)
    (hoff : t.blinkOff < 0x80000000) (hgap : idle + gap < 2 ^ 31) :
    (s.perform t (.ofNat (y.time + gap)) .update).Ensures (.history Hardware)
      (fun r h => Kept t intensity 0 r.2
        (.taken (y.time + gap) (some .update) r.1 h r.2) (y :: older)) [] := by
  refine (update_displays t s _).bind ?_
  rintro s' h (⟨hflips, hdisplays⟩ | ⟨hstays, rfl, rfl⟩)
  · have hdue := (hk.flipsAt_iff hgap).1 hflips
    rw [hk.pattern, hk.lit] at hdisplays
    refine hk.turn hdisplays ⟨rfl, rfl, ?_⟩ ?_ ?_
    · simp [hdue]
    · simp
    · simp [hdue.1]
  · have hearly := mt (hk.flipsAt_iff hgap).2 hstays
    have hpast := hk.past
    have hspan := Frame.span_lt hon hoff y
    have hx : Frame.Follows t ⟨y.time + gap, some .update, none, [], s'.pattern, s'.lit⟩ y
        (since (y :: older)) := ⟨hk.pattern, rfl, by simp [hk.lit, hearly]⟩
    exact hk.still hx (by omega) fun hblink => by
      simp only [hblink, true_and] at hearly
      omega

lemma start_eq (s : Indicator) (now : Clock) :
    s.start now = .call (paint s.intensity .red) fun _ => .done
      { s with pattern := ⟨.red, false⟩, lit := true, phase := now, shown := some .red } := by
  unfold start display
  rw [if_neg nofun, write_eq]
  rfl

lemma start_kept (t : Timing) (s : Indicator) (began : Nat) :
    (s.start (.ofNat began)).Ensures (.history Hardware)
      (fun s' h => Kept t s.intensity 0 s' (.taken began none none h s') []) [] := by
  rw [start_eq]
  rintro _ _ rfl
  refine ⟨rfl, rfl, rfl, rfl, rfl, Nat.le_refl _, nofun, ⟨⟨rfl, rfl, rfl⟩, ?_, ?_, rfl, ?_⟩⟩
  · exact List.forall_mem_singleton.2 fun _ => rfl
  · exact List.forall_mem_singleton.2 (.inr rfl)
  · exact .singleton _

/-- What one operation keeps, all of them keep. -/
lemma Kept.throughout (hon : t.blinkOn < 0x80000000) (hoff : t.blinkOff < 0x80000000)
    (ops : List (Nat × Operation)) (hk : Kept t intensity idle s x older)
    (hops : Timely x.pattern idle ops) :
    Throughout t (Faithful t intensity) ops x.time s (x :: older) := by
  induction ops generalizing idle s x older with
  | nil => exact hk.faithful
  | cons first rest ih =>
    obtain ⟨gap, op⟩ := first
    cases op with
    | apply p =>
      refine (hk.apply p gap).mono fun r h hr => ih hr ?_
      have hpattern : r.2.pattern = p := hr.faithful.exact.1.1
      rw [Frame.taken, hpattern]
      rw [Timely] at hops
      split at hops
      · rename_i hsame
        rw [if_pos hsame, hsame]
        exact hops
      · rename_i hnew
        rw [if_neg hnew]
        exact hops
    | update =>
      obtain ⟨hgap, hrest⟩ := hops
      refine (hk.update hon hoff hgap).mono fun r h hr => ih hr ?_
      have hpattern : r.2.pattern = x.pattern := hr.faithful.exact.1.1
      rw [Frame.taken, hpattern]
      exact hrest

/-- **The light shows what the indicator believes**: whatever patterns are applied and whenever the
light is updated, if the blinking is shorter than 2^31 and updates come less than that after the
update before, or after their pattern was taken up, the last colour sent to the light is the one of
the pattern while it is lit and dark otherwise, only a blinking pattern is ever dark, no colour is
sent twice in a row, to apply the pattern that there is changes nothing, and a blinking light flips
in exactly those updates that come as long after it flipped last, or was taken up, as it is to stay
lit or dark. -/
theorem light_shows (t : Timing) (hon : t.blinkOn < 0x80000000) (hoff : t.blinkOff < 0x80000000)
    (s : Indicator) (began : Nat) (ops : List (Nat × Operation))
    (hops : Timely ⟨.red, false⟩ 0 ops) :
    (s.start (.ofNat began)).Ensures (.history Hardware) (fun s' h =>
      Throughout t (Faithful t s.intensity) ops began s' [.taken began none none h s']) [] := by
  refine (start_kept t s began).mono fun s' h hk => ?_
  have hpattern : s'.pattern = ⟨.red, false⟩ := hk.faithful.exact.2.1
  refine hk.throughout hon hoff ops ?_
  rw [Frame.taken, hpattern]
  exact hops

/-- A light blinks, is told so again, is updated just in time for longer than the clock lasts, and
then shows another pattern. -/
def longBlink : List (Nat × Operation) :=
  [(0, .apply ⟨.green, true⟩), (499, .update), (1, .update), (700, .apply ⟨.green, true⟩),
    (2 ^ 30, .update), (2 ^ 31 - 1, .update), (2 ^ 31 - 1, .apply ⟨.green, false⟩),
    (2 ^ 31 - 1, .update)]

/-- A light with the usual times that starts just before the clock wraps. -/
theorem light_shows_across_wrap :
    ((({} : Timing).blinkOn < 0x80000000 ∧ ({} : Timing).blinkOff < 0x80000000) ∧
      Timely ⟨.red, false⟩ 0 longBlink) ∧
    (({ intensity := 32 } : Indicator).start (.ofNat 4294967200)).Ensures (.history Hardware)
      (fun s' h => Throughout {} (Faithful {} 32) longBlink 4294967200 s'
        [.taken 4294967200 none none h s']) [] :=
  have htimely : Timely ⟨.red, false⟩ 0 longBlink := by
    simp [longBlink, Timely, LightColor.red, LightColor.green]
  ⟨⟨⟨by decide, by decide⟩, htimely⟩,
    light_shows {} (by decide) (by decide) { intensity := 32 } 4294967200 longBlink htimely⟩

/-- A light is told again and again to blink as it does, and updated once when the clock has gone
round. -/
def reapplied : List (Nat × Operation) :=
  [(0, .apply ⟨.green, true⟩), (2 ^ 31 - 1, .apply ⟨.green, true⟩),
    (2 ^ 31 - 1, .apply ⟨.green, true⟩), (102, .update)]

/-- It is not enough that operations of any kind are less than 2^31 apart: the light does not flip
although its time has come. -/
theorem blink_unheeded :
    ((({} : Timing).blinkOn < 0x80000000 ∧ ({} : Timing).blinkOff < 0x80000000) ∧
      ∀ x ∈ reapplied, x.1 < 2 ^ 31) ∧
    ¬(({ intensity := 32 } : Indicator).start (.ofNat 0)).Ensures (.history Hardware) (fun s' h =>
      Throughout {} (Faithful {} 32) reapplied 0 s' [.taken 0 none none h s']) [] := by
  refine ⟨⟨by decide, by decide⟩, fun h => ?_⟩
  have hfaithful := h () _ rfl () _ rfl
  have hflips := hfaithful.exact.1.2.2
  exact absurd (hflips.2 ⟨rfl, by decide⟩) (by decide)

end Indicator

end DoorControl
