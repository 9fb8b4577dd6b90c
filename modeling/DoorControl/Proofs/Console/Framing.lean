import Mathlib.Tactic.Common
import DoorControl.Board.Firmware

/-!
The lines of the console. What is typed comes in bit by bit, and what is kept of a line that has not
ended is told by that line alone. So the lines that are run are those of the whole stream, however
it was cut up on its way in.
-/

namespace DoorControl

namespace Console

/-! ### The stream -/

/-- What comes in, without its carriage returns. -/
def typed (stream : Bytes) : Bytes := stream.filter (· ≠ 13)

/-- A text cut at its line feeds: the segments that end, and what is behind the last line feed. -/
def cut (s : Bytes) : List Bytes × Bytes := ((s.splitOn 10).dropLast, (s.splitOn 10).getLastD [])

/-- The segments of a stream that have ended. -/
def segments (stream : Bytes) : List Bytes := (cut (typed stream)).1

/-- The tail of a stream, which has not ended. -/
def tail (stream : Bytes) : Bytes := (cut (typed stream)).2

/-- The segments that end in what comes in after a stream. -/
def fresh (past input : Bytes) : List Bytes :=
  (segments (past ++ input)).drop (segments past).length

/-- The segments that end in each of the inputs that come in one after another. -/
def freshes : Bytes → List Bytes → List (List Bytes)
  | _, [] => []
  | past, input :: rest => fresh past input :: freshes (past ++ input) rest

/-- What is kept of a tail: as much as there is room for, and whether that is not all. -/
def Pending.ofTail (s : Bytes) : Pending where
  kept := s.take lineLength
  overflow := decide (lineLength < s.length)

/-- What comes of a segment by itself. -/
def ended? (s : Bytes) : Option Ended :=
  if s = [] then none else if s.length ≤ lineLength then some (.line s) else some .tooLong

variable {s u v w : Bytes} {b : UInt8}

/-! ### Cutting -/

lemma cut_of_not_mem (hu : 10 ∉ u) : cut u = ([], u) := by
  have hsingle : u.splitOn 10 = [u] :=
    List.splitOnP_eq_singleton fun b hb => by simpa using fun h : b = 10 => hu (h ▸ hb)
  rw [cut, hsingle]
  rfl

lemma cut_append_feed (hu : 10 ∉ u) (v : Bytes) :
    cut (u ++ 10 :: v) = (u :: (cut v).1, (cut v).2) := by
  have hfirst : (u ++ 10 :: v).splitOn 10 = u :: v.splitOn 10 :=
    List.splitOnP_append_cons_of_forall_mem
      (fun b hb => by simpa using fun h : b = 10 => hu (h ▸ hb)) 10 (by simp) v
  obtain ⟨first, rest, hv⟩ := List.exists_cons_of_ne_nil (List.splitOnP_ne_nil (· == 10) v)
  have hv : v.splitOn 10 = first :: rest := hv
  rw [cut, cut, hfirst, hv]
  rfl

lemma cut_append (hu : 10 ∉ u) (v w : Bytes) :
    cut (u ++ v ++ w) = ((cut (u ++ v)).1 ++ (cut ((cut (u ++ v)).2 ++ w)).1,
      (cut ((cut (u ++ v)).2 ++ w)).2) := by
  induction v generalizing u with
  | nil => simp [cut_of_not_mem hu]
  | cons b v ih =>
    by_cases hb : b = 10
    · subst hb
      have hv := ih (u := []) (by simp)
      simp only [List.nil_append] at hv
      rw [List.append_assoc, List.cons_append, cut_append_feed hu, cut_append_feed hu, hv]
      rfl
    · have hu' : 10 ∉ u ++ [b] := by simp [hu, Ne.symm hb]
      simpa using ih hu'

lemma feed_not_mem_cut (hu : 10 ∉ u) (v : Bytes) : 10 ∉ (cut (u ++ v)).2 := by
  induction v generalizing u with
  | nil => simpa [cut_of_not_mem hu] using hu
  | cons b v ih =>
    by_cases hb : b = 10
    · subst hb
      rw [cut_append_feed hu]
      exact ih (u := []) (by simp)
    · have hu' : 10 ∉ u ++ [b] := by simp [hu, Ne.symm hb]
      simpa using ih hu'

lemma typed_append (s t : Bytes) : typed (s ++ t) = typed s ++ typed t := List.filter_append ..

/-- More input goes on where the stream before it ended. -/
lemma cut_typed_append (past input : Bytes) :
    cut (typed past ++ typed input) = (segments past ++ (cut (tail past ++ typed input)).1,
      (cut (tail past ++ typed input)).2) :=
  cut_append (u := []) (by simp) (typed past) (typed input)

lemma segments_eq (past input : Bytes) :
    segments (past ++ input) = segments past ++ (cut (tail past ++ typed input)).1 := by
  rw [segments, typed_append, cut_typed_append]

lemma tail_eq (past input : Bytes) : tail (past ++ input) = (cut (tail past ++ typed input)).2 := by
  rw [tail, typed_append, cut_typed_append]

lemma fresh_eq (past input : Bytes) : fresh past input = (cut (tail past ++ typed input)).1 := by
  rw [fresh, segments_eq, List.drop_left]

lemma segments_append (past input : Bytes) :
    segments (past ++ input) = segments past ++ fresh past input := by
  rw [fresh_eq, segments_eq]

lemma flatten_freshes (past : Bytes) (inputs : List Bytes) :
    segments past ++ (freshes past inputs).flatten = segments (past ++ inputs.flatten) := by
  induction inputs generalizing past with
  | nil => simp [freshes]
  | cons input rest ih =>
    rw [freshes, List.flatten_cons, ← List.append_assoc, ← segments_append, ih, List.flatten_cons,
      List.append_assoc]

lemma feed_not_mem_tail (past : Bytes) : 10 ∉ tail past :=
  feed_not_mem_cut (u := []) (by simp) (typed past)

/-! ### Bytes as they come in -/

lemma ofTail_take_return (u : Bytes) : (Pending.ofTail u).take 13 = (none, Pending.ofTail u) := rfl

lemma ofTail_take (h13 : b ≠ 13) (h10 : b ≠ 10) (u : Bytes) :
    (Pending.ofTail u).take b = (none, Pending.ofTail (u ++ [b])) := by
  have hlength : (u ++ [b]).length = u.length + 1 := by simp
  simp only [Pending.take, if_neg h13, if_pos h10, Pending.ofTail, hlength, List.length_take]
  by_cases hroom : u.length < lineLength
  · have hshort : ¬lineLength < u.length ∧ ¬lineLength < u.length + 1 := by omega
    rw [if_pos (by omega), List.take_of_length_le (Nat.le_of_lt hroom),
      List.take_of_length_le (by omega)]
    simp [hshort]
  · have hlong : lineLength < u.length + 1 := by omega
    rw [if_neg (by omega), List.take_append_of_le_length (by omega)]
    simp [hlong]

lemma ofTail_take_feed (u : Bytes) : (Pending.ofTail u).take 10 = (ended? u, .ofTail []) := by
  have hempty : u.take lineLength = [] ↔ u = [] := by simp [lineLength]
  simp only [Pending.take, if_neg (show (10 : UInt8) ≠ 13 by decide), ne_eq, not_true, if_false,
    Pending.ofTail, decide_eq_true_eq, hempty, ended?]
  by_cases hlong : lineLength < u.length
  · have hne : u ≠ [] := by
      rintro rfl
      cases hlong
    rw [if_pos hlong, if_neg hne, if_neg (Nat.not_le_of_lt hlong)]
    rfl
  · rw [if_neg hlong, List.take_of_length_le (Nat.le_of_not_lt hlong),
      if_pos (Nat.le_of_not_lt hlong)]
    split <;> rfl

/-- What comes in ends the segments that end in it, and leaves their tail. -/
lemma ofTail_takeAll (hu : 10 ∉ u) (s : Bytes) :
    (Pending.ofTail u).takeAll s = ((cut (u ++ typed s)).1.filterMap ended?,
      Pending.ofTail (cut (u ++ typed s)).2) := by
  induction s generalizing u with
  | nil => simp [Pending.takeAll, typed, cut_of_not_mem hu]
  | cons b s ih =>
    rw [Pending.takeAll]
    by_cases h13 : b = 13
    · subst h13
      rw [ofTail_take_return]
      simp only [ih hu]
      rfl
    have htyped : typed (b :: s) = b :: typed s := List.filter_cons_of_pos (by simpa using h13)
    rw [htyped]
    by_cases h10 : b = 10
    · subst h10
      have hs := ih (u := []) (by simp)
      simp only [ofTail_take_feed, hs, List.nil_append, cut_append_feed hu, List.filterMap_cons]
      cases ended? u <;> rfl
    · have hu' : 10 ∉ u ++ [b] := by simp [hu, Ne.symm h10]
      simp only [ofTail_take h13 h10, ih hu', List.append_assoc, List.singleton_append]
      rfl

/-- After a stream, what comes in ends its fresh segments. -/
lemma takeAll_fresh (past input : Bytes) :
    (Pending.ofTail (tail past)).takeAll input =
      ((fresh past input).filterMap ended?, .ofTail (tail (past ++ input))) := by
  rw [ofTail_takeAll (feed_not_mem_tail past), ← fresh_eq, ← tail_eq]

end Console

namespace Firmware

open Bytes Board Console Program

/-- What is done about a segment. One that is not empty and fits the buffer is a command to the
device, as the text it makes up to a zero byte: the device carries it out by the board's drivers, and
as much of its reply as there is room for is printed behind a mark of whether it was accepted, with
the counters after it where the command asks for the status. A longer segment is an error. -/
def serveSegment (opened : Bool) (t : DeviceTask) (now : Clock) (s : Bytes) : Program Board Unit :=
  if s = [] then pure ()
  else if s.length ≤ 255 then do
    let line := s.takeWhile (· != 0)
    let reply ← (t.device.command line now).lower (Driver.lower opened)
    ask (.print (if reply.accepted then ascii "[CMD] " else ascii "[CMD] ERR "))
    ask (.print (reply.text.take 159 ++ [13, 10]))
    if reply.accepted && matchesWord line (ascii "status") then
      ask (.print (← stats t.overruns).describe)
  else ask (.print (ascii "[CMD] ERR line too long" ++ [13, 10]))

def serveSegments (opened : Bool) (t : DeviceTask) (now : Clock) : List Bytes → Program Board Unit
  | [] => pure ()
  | s :: rest => do
    serveSegment opened t now s
    serveSegments opened t now rest

/-- The console is polled at several clocks, by what the task keeps each time. -/
def polls (opened : Bool) : List (DeviceTask × Clock) → Pending → Program Board Pending
  | [], p => pure p
  | (t, now) :: rest, p => do
    let t ← pollConsole opened { t with console := p } now
    polls opened rest t.console

/-- The segments of a stream are served as they end, and its tail is kept. -/
def serveStream (opened : Bool) : Bytes → List (DeviceTask × Clock) → Program Board Pending
  | past, [] => pure (.ofTail (tail past))
  | past, (t, now) :: rest => do
    let input ← ask .serialInput
    serveSegments opened t now (fresh past input)
    serveStream opened (past ++ input) rest

variable {opened : Bool} {t : DeviceTask} {now : Clock}

lemma runLines_ended (segs : List Bytes) (p : Pending) :
    runLines opened { t with console := p } now (segs.filterMap ended?) =
      serveSegments opened t now segs := by
  induction segs with
  | nil => rfl
  | cons s rest ih =>
    rw [serveSegments, serveSegment, ← ih]
    by_cases hempty : s = []
    · rw [if_pos hempty, List.filterMap_cons_none (by rw [ended?, if_pos hempty])]
      rfl
    by_cases hfits : s.length ≤ 255
    · have hline : ended? s = some (.line s) := by
        rw [ended?, if_neg hempty]
        exact if_pos hfits
      rw [if_neg hempty, if_pos hfits, List.filterMap_cons_some hline]
      rfl
    · have hlong : ended? s = some .tooLong := by
        rw [ended?, if_neg hempty]
        exact if_neg hfits
      rw [if_neg hempty, if_neg hfits, List.filterMap_cons_some hlong]
      rfl

/-- A poll serves the segments that end in what has come in. -/
lemma pollConsole_eq (past : Bytes) :
    pollConsole opened { t with console := .ofTail (tail past) } now =
      (do
        let input ← ask .serialInput
        serveSegments opened t now (fresh past input)
        pure { t with console := .ofTail (tail (past ++ input)) }) := by
  refine congrArg (Program.call _) (funext fun input => ?_)
  change (do
    runLines opened { t with console := .ofTail (tail past) } now
      ((Pending.ofTail (tail past)).takeAll input).1
    pure { t with console := ((Pending.ofTail (tail past)).takeAll input).2 }) = _
  rw [takeAll_fresh, runLines_ended]
  rfl

lemma polls_eq (past : Bytes) (ps : List (DeviceTask × Clock)) :
    polls opened ps (.ofTail (tail past)) = serveStream opened past ps := by
  induction ps generalizing past with
  | nil => rfl
  | cons first rest ih =>
    obtain ⟨t, now⟩ := first
    rw [polls, pollConsole_eq]
    refine congrArg (Program.call _) (funext fun input => ?_)
    change (serveSegments opened t now (fresh past input) >>= fun _ => pure _) >>= _ = _
    rw [Program.bind_assoc]
    exact congrArg (serveSegments opened t now (fresh past input) >>= ·) (funext fun _ => ih _)

/-- **Lines are framed by the stream**: however what is typed is split over the polls of the
console, the polls serve the segments that end in it, each once and in order, whatever was before
it: a segment that fits the buffer is a command to the device, a longer one is answered by one error,
an empty one by nothing. The tail is kept. What the polls serve one after another are the segments
of the stream. -/
theorem polls_serve_stream (opened : Bool) (ps : List (DeviceTask × Clock)) :
    polls opened ps {} = serveStream opened [] ps ∧
      ∀ inputs : List Bytes, (freshes [] inputs).flatten = segments inputs.flatten :=
  ⟨polls_eq [] ps, fun inputs => flatten_freshes [] inputs⟩

end Firmware

end DoorControl
