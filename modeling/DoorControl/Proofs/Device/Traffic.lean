import DoorControl.Proofs.Device.Life

/-!
The event queue between the parts of a device: bounded, first in first out, and open to other
producers at any time.
-/

namespace DoorControl

open Program

/-- Something that happened to an event: it was posted, by the device itself or by others, or it
was handed to the device. -/
inductive Moment
  | posted (own : Bool) (e : Event) (accepted : Bool)
  | handled (e : Event)

/-- The event queue, the oldest event first, and what happened so far, the newest first. -/
structure Traffic where
  capacity : Nat
  queue : List Event := []
  past : List Moment := []

namespace Traffic

/-- A full queue refuses an event. -/
def post (q : Traffic) (own : Bool) (e : Event) : Traffic :=
  if q.queue.length < q.capacity then
    { q with queue := q.queue ++ [e], past := .posted own e true :: q.past }
  else { q with past := .posted own e false :: q.past }

/-- The queue after others have posted. -/
def others (q : Traffic) (es : List Event) : Traffic := es.foldl (post · false ·) q

/-- What the queue answers, and what becomes of it. -/
def Answers : (c : Hardware.Call) → Traffic → Hardware.Answer c → Traffic → Prop
  | .post e, q, ok, q' => ok = decide (q.queue.length < q.capacity) ∧ q' = q.post true e
  | _, q, _, q' => q' = q

/-- Surroundings with such a queue in them. Others may post before each call. -/
def surroundings : Surroundings Hardware Traffic where
  may c q r q' := ∃ es, Answers c (q.others es) r q'

lemma others_keep {K : Traffic → Prop} (hpost : ∀ q e, K q → K (q.post false e))
    (es : List Event) {q : Traffic} (h : K q) : K (q.others es) := by
  induction es generalizing q with
  | nil => exact h
  | cons e es ih => exact ih (hpost q e h)

lemma ensures_keep {α : Type} {P : Hardware.Call → Prop} {p : Program Hardware α}
    {post : α → Prop} {K : Traffic → Prop} (hp : p.Confined P post)
    (hothers : ∀ q e, K q → K (q.post false e))
    (hown : ∀ q e, P (.post e) → K q → K (q.post true e)) {q : Traffic} (h : K q) :
    p.Ensures surroundings (fun a q' => post a ∧ K q') q := by
  refine hp.ensures ?_ h
  rintro c q r q' hc ⟨es, hr⟩ hq
  have hes := others_keep hothers es hq
  cases c with
  | post e =>
    obtain ⟨-, rfl⟩ := hr
    exact hown _ e hc hes
  | _ =>
    obtain rfl := hr
    exact hes

/-- A report turns one thing that others do not undo into another. -/
lemma postOrWarn_ensures {K L : Traffic → Prop} (tag : Bytes) {e : Event}
    (hpost : ∀ q, K q → L (q.post true e))
    (hothers : ∀ q e, K q → K (q.post false e))
    (hothers' : ∀ q e, L q → L (q.post false e)) {q : Traffic} (h : K q) :
    (Hardware.postOrWarn tag e).Ensures surroundings (fun _ q' => L q') q := by
  rintro ok _ ⟨es, -, rfl⟩
  have h' := hpost _ (others_keep hothers es h)
  cases ok with
  | true => exact h'
  | false =>
    rintro _ _ ⟨es, rfl⟩
    exact others_keep hothers' es h'

end Traffic

/-! ### Turns -/

/-- What happens to a device with its queue: time passes, the oldest event is handed over, or
others post. -/
inductive Turn
  | tick (now : Clock)
  | pump
  | others (es : List Event)

/-- Whatever the surroundings answer, `post` holds after the turns. -/
def Device.Always (post : Device → Traffic → Prop) : List Turn → Device → Traffic → Prop
  | [], d, q => post d q
  | .tick now :: rest, d, q => (d.tick now).Ensures Traffic.surroundings (Always post rest) q
  | .pump :: rest, d, q =>
    match q.queue with
    | [] => Always post rest d q
    | e :: queue => (d.handle e).Ensures Traffic.surroundings (fun r q' => Always post rest r.2 q')
        { q with queue := queue, past := .handled e :: q.past }
  | .others es :: rest, d, q => Always post rest d (q.others es)

lemma Device.always_of_keep {keep : Device → Traffic → Prop}
    (htick : ∀ d q now, keep d q → (d.tick now).Ensures Traffic.surroundings keep q)
    (hpump : ∀ d q e queue, q.queue = e :: queue → keep d q →
      (d.handle e).Ensures Traffic.surroundings (fun r q' => keep r.2 q')
        { q with queue := queue, past := .handled e :: q.past })
    (hothers : ∀ d q e, keep d q → keep d (q.post false e)) (turns : List Turn) {d : Device}
    {q : Traffic} (h : keep d q) : Always keep turns d q := by
  induction turns generalizing d q with
  | nil => exact h
  | cons turn turns ih =>
    cases turn with
    | tick now => exact (htick d q now h).mono fun d' q' h' => ih h'
    | others es => exact ih (Traffic.others_keep (hothers d) es h)
    | pump =>
      unfold Always
      split
      · exact ih h
      · rename_i e queue hq
        exact (hpump d q e queue hq h).mono fun r q' h' => ih h'

lemma Device.Always.mono {post post' : Device → Traffic → Prop}
    (hpost : ∀ d q, post d q → post' d q) (turns : List Turn) {d : Device} {q : Traffic}
    (h : Always post turns d q) : Always post' turns d q := by
  induction turns generalizing d q with
  | nil => exact hpost d q h
  | cons turn turns ih =>
    cases turn with
    | tick now => exact Ensures.mono h fun d' q' h' => ih h'
    | others es => exact ih h
    | pump =>
      unfold Always at h ⊢
      split at h
      · exact ih h
      · exact Ensures.mono h fun r q' h' => ih h'

/-! ### Given hardware -/

/-- The device and its queue after turns among given hardware. -/
def Device.live (E : Environment Hardware Traffic) :
    List Turn → Device → Traffic → Device × Traffic
  | [], d, q => (d, q)
  | .tick now :: rest, d, q =>
    let r := (d.tick now).run E q
    live E rest r.1 r.2
  | .pump :: rest, d, q =>
    match q.queue with
    | [] => live E rest d q
    | e :: queue =>
      let r := (d.handle e).run E { q with queue := queue, past := .handled e :: q.past }
      live E rest r.1.2 r.2
  | .others es :: rest, d, q => live E rest d (q.others es)

/-- **Soundness**: what always holds after the turns holds after them among given hardware. -/
theorem Device.Always.live {E : Environment Hardware Traffic}
    (hE : E.Follows Traffic.surroundings id) {post : Device → Traffic → Prop} (turns : List Turn)
    {d : Device} {q : Traffic} (h : Always post turns d q) :
    post (live E turns d q).1 (live E turns d q).2 := by
  induction turns generalizing d q with
  | nil => exact h
  | cons turn turns ih =>
    cases turn with
    | tick now => exact ih (Ensures.run hE h)
    | others es => exact ih h
    | pump =>
      cases hq : q.queue with
      | nil =>
        simp only [Always, hq] at h
        simp only [Device.live, hq]
        exact ih h
      | cons e queue =>
        simp only [Always, hq] at h
        simp only [Device.live, hq]
        exact ih (Ensures.run (f := id) hE h)

/-- The queue among hardware that stores nothing, accepts everything and reads high levels. -/
def Traffic.calm : Environment Hardware Traffic where
  respond
    | .post e, q => (decide (q.queue.length < q.capacity), q.post true e)
    | .storedLength _, q => (0, q)
    | .storedRead _ _, q | .deviceId _, q => ([], q)
    | .storedWrite _ v, q => (v.length, q)
    | .take, q => (none, q)
    | .radioStatus, q => (.down, q)
    | .pinRead _, q | .startAccessPoint _ _, q | .startStation _ _, q | .request _, q | .flush _, q
    | .storedRemove _, q | .offer _, q => (true, q)
    | .pinOutput _, q | .pinInput _, q | .pinWrite _ _, q | .stopRadio, q | .light _ _ _, q
    | .restart, q | .log _, q => ((), q)

lemma Traffic.calm_follows : calm.Follows surroundings id := by
  intro c q
  refine ⟨[], ?_⟩
  cases c with
  | post e => exact ⟨rfl, rfl⟩
  | _ => rfl

end DoorControl
