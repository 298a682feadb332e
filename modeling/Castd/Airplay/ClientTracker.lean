import Castd.Lib.CharClass
import Mathlib.Data.List.Infix

/-!
# The clients of uxplay

`UxPlayClientTracker` of `castd/airplay/uxplay.py`, which counts connections from the log lines of
`uxplay`. `Connections` is what the log says: how many connections are open, and how many mirror
streams ended since there was the first of them. The tracker takes the end of a mirror stream for a
close, and `feedAll_eq_answers_iff` says for which logs that does not show.
-/

namespace Castd.Airplay

open Lib

/-! ## The tracker -/

/-- `_ACCEPT_RE`. Its `.` stops at a line feed. -/
def acceptRe (line : Str) : Bool :=
  line.tails.any fun rest =>
    match afterIgnoringCase "Accepted ".toList rest with
    | some client => occursIgnoringCase "client on socket".toList (client.takeWhile (· != '\n'))
    | none => false

/-- The first branch of `_CLOSE_RE`. -/
def connectionClosed (line : Str) : Bool := occursIgnoringCase "Connection closed".toList line

/-- The second branch of `_CLOSE_RE`. -/
def mirrorStopping (line : Str) : Bool :=
  occursIgnoringCase "raop_rtp_mirror stopping".toList line

/-- `_CLOSE_RE`. -/
def closeRe (line : Str) : Bool := connectionClosed line || mirrorStopping line

/-- `_SERVER_STOP_RE`. -/
def serverStopRe (line : Str) : Bool := occursIgnoringCase "Stopping RAOP Server".toList line

/-- What `feed` returns besides `None`. -/
inductive ClientEvent
  | connected
  | disconnected
  deriving DecidableEq

/-- `UxPlayClientTracker`, with `_open`. -/
structure UxPlayClientTracker where
  opened : Nat := 0
  deriving DecidableEq

/-- `UxPlayClientTracker.feed`. -/
def UxPlayClientTracker.feed (t : UxPlayClientTracker) (line : Str) :
    Option ClientEvent × UxPlayClientTracker :=
  if serverStopRe line then (if t.opened > 0 then some .disconnected else none, { opened := 0 })
  else if acceptRe line then
    let opened := t.opened + 1
    (if opened = 1 then some .connected else none, { opened := opened })
  else if closeRe line && t.opened > 0 then
    let opened := t.opened - 1
    (if opened = 0 then some .disconnected else none, { opened := opened })
  else (none, t)

/-- What `feed` returns on the lines of a log, one after the other. -/
def UxPlayClientTracker.feedAll : UxPlayClientTracker → List Str → List (Option ClientEvent)
  | _, [] => []
  | t, line :: lines => (t.feed line).1 :: (t.feed line).2.feedAll lines

/-! ## The connections -/

/-- What a log line reports. -/
inductive LineKind
  | serverStop
  | accept
  | close
  | mirrorStop
  | other
  deriving DecidableEq

/-- What a log line is seen as. -/
def kindOf (line : Str) : LineKind :=
  if serverStopRe line then .serverStop
  else if acceptRe line then .accept
  else if connectionClosed line then .close
  else if mirrorStopping line then .mirrorStop
  else .other

/-- The connections that were accepted and not closed since the last server stop, and the mirror
streams that ended since the number of connections last rose from zero. -/
structure Connections where
  opened : Nat := 0
  mirrorStops : Nat := 0
  deriving DecidableEq

namespace Connections

/-- The connections after a line. -/
def after (c : Connections) (line : Str) : Connections :=
  match kindOf line with
  | .serverStop => {}
  | .accept => if c.opened = 0 then { opened := 1 } else { c with opened := c.opened + 1 }
  | .close => { c with opened := c.opened - 1 }
  | .mirrorStop => { c with mirrorStops := c.mirrorStops + 1 }
  | .other => c

/-- What there is to say about a step from one number of connections to another. -/
def answer (before later : Nat) : Option ClientEvent :=
  if before = 0 ∧ later = 1 then some .connected
  else if 0 < before ∧ later = 0 then some .disconnected
  else none

/-- What there is to say about the lines of a log, one after the other. -/
def answers : Connections → List Str → List (Option ClientEvent)
  | _, [] => []
  | c, line :: lines => answer c.opened (c.after line).opened :: (c.after line).answers lines

/-- While a connection is open, fewer mirror streams ended than connections are open. -/
def Outnumber (c : Connections) : Prop := 0 < c.opened → c.mirrorStops < c.opened

instance (c : Connections) : Decidable c.Outnumber := inferInstanceAs (Decidable (_ → _))

end Connections

private theorem connected_eq_answer_iff {before later : Nat} :
    some .connected = Connections.answer before later ↔ before = 0 ∧ later = 1 := by
  unfold Connections.answer
  split_ifs with rises falls <;> simp [rises]

private theorem disconnected_eq_answer_iff {before later : Nat} :
    some .disconnected = Connections.answer before later ↔ 0 < before ∧ later = 0 := by
  unfold Connections.answer
  split_ifs with rises falls <;> simp_all

private theorem none_eq_answer_iff {before later : Nat} :
    none = Connections.answer before later ↔
      ¬(before = 0 ∧ later = 1) ∧ ¬(0 < before ∧ later = 0) := by
  unfold Connections.answer
  split_ifs with rises falls <;> simp_all

/-! ## When the tracker is right -/

/-- What `feed` does, by what the line is seen as. -/
theorem UxPlayClientTracker.feed_eq (t : UxPlayClientTracker) (line : Str) :
    t.feed line =
      match kindOf line with
      | .serverStop => (if 0 < t.opened then some .disconnected else none, { opened := 0 })
      | .accept => (if t.opened = 0 then some .connected else none, { opened := t.opened + 1 })
      | .close | .mirrorStop =>
        (if t.opened = 1 then some .disconnected else none, { opened := t.opened - 1 })
      | .other => (none, t) := by
  obtain ⟨n⟩ := t
  have counted : (if decide (n > 0) = true then
      (if n - 1 = 0 then some ClientEvent.disconnected else none,
        (⟨n - 1⟩ : UxPlayClientTracker)) else (none, ⟨n⟩)) =
      (if n = 1 then some .disconnected else none, ⟨n - 1⟩) := by
    rcases Nat.eq_zero_or_pos n with rfl | pos
    · rfl
    · have last : n - 1 = 0 ↔ n = 1 := by omega
      simp only [if_pos (decide_eq_true pos), last]
  unfold UxPlayClientTracker.feed kindOf closeRe
  by_cases stop : serverStopRe line = true
  · simp only [if_pos stop, gt_iff_lt]
  by_cases accept : acceptRe line = true
  · simp only [if_neg stop, if_pos accept, Nat.add_eq_right]
  by_cases closed : connectionClosed line = true
  · simp only [if_neg stop, if_neg accept, closed, Bool.true_or, Bool.true_and]
    exact counted
  by_cases mirror : mirrorStopping line = true
  · simp only [if_neg stop, if_neg accept, if_neg closed, mirror, Bool.or_true,
      Bool.true_and]
    exact counted
  · simp only [if_neg stop, if_neg accept, closed, mirror, Bool.false_or, Bool.false_and,
      if_neg Bool.false_ne_true]

/-- The tracker counts the open connections less the mirror streams that ended, and one at least
while there is a connection. -/
def Tracks (c : Connections) (t : UxPlayClientTracker) : Prop :=
  c.opened = 0 ∧ t.opened = 0 ∨ 0 < t.opened ∧ t.opened + c.mirrorStops = c.opened

/-- A tracker that tracks answers a line right exactly if the connections outnumber the mirror
streams after it, and then it still tracks. -/
theorem Tracks.feed {c : Connections} {t : UxPlayClientTracker} (h : Tracks c t) (line : Str) :
    ((t.feed line).1 = Connections.answer c.opened (c.after line).opened ↔
        (c.after line).Outnumber) ∧
      ((c.after line).Outnumber → Tracks (c.after line) (t.feed line).2) := by
  rw [t.feed_eq]
  unfold Tracks at h ⊢
  unfold Connections.Outnumber Connections.after
  cases kindOf line with
  | serverStop =>
    dsimp only
    split_ifs <;> simp only [disconnected_eq_answer_iff, none_eq_answer_iff] <;> grind
  | accept =>
    dsimp only
    split_ifs <;> simp only [connected_eq_answer_iff, none_eq_answer_iff] <;> grind
  | close =>
    dsimp only
    split_ifs <;> simp only [disconnected_eq_answer_iff, none_eq_answer_iff] <;> omega
  | mirrorStop =>
    dsimp only
    split_ifs <;> simp only [disconnected_eq_answer_iff, none_eq_answer_iff] <;> omega
  | other =>
    dsimp only
    rw [none_eq_answer_iff]
    omega

private theorem Tracks.outnumber {c : Connections} {t : UxPlayClientTracker} (h : Tracks c t) :
    c.Outnumber := by
  unfold Tracks at h
  unfold Connections.Outnumber
  omega

/-- From where the tracker tracks, it answers a log right exactly if the connections outnumber the
mirror streams all along. -/
private theorem Tracks.answers_iff {lines : List Str} {c : Connections}
    {t : UxPlayClientTracker} (h : Tracks c t) :
    t.feedAll lines = c.answers lines ↔
      ∀ front, front <+: lines → (front.foldl Connections.after c).Outnumber := by
  induction lines generalizing c t with
  | nil =>
    refine iff_of_true rfl fun front empty => ?_
    rw [List.prefix_nil.mp empty]
    exact h.outnumber
  | cons line lines ih =>
    obtain ⟨right, tracks⟩ := h.feed line
    rw [UxPlayClientTracker.feedAll, Connections.answers, List.cons.injEq, right]
    constructor
    · rintro ⟨outnumber, later⟩ front isFront
      rcases List.prefix_cons_iff.mp isFront with rfl | ⟨front, rfl, within⟩
      · exact h.outnumber
      · exact (ih (tracks outnumber)).mp later front within
    · intro allAlong
      have outnumber : (c.after line).Outnumber :=
        allAlong [line] (List.prefix_cons_iff.mpr (.inr ⟨[], rfl, List.nil_prefix⟩))
      refine ⟨outnumber, (ih (tracks outnumber)).mpr fun front isFront => ?_⟩
      exact allAlong (line :: front) (List.prefix_cons_iff.mpr (.inr ⟨front, rfl, isFront⟩))

/-- The tracker of a child answers the lines of its log right exactly if at every point of the log
at which a connection is open, fewer mirror streams have ended since the first of them than
connections are open.

A mirror stream that ends takes one off the count, as the close of its connection does: a client
that stops and starts mirroring on one connection is counted out. -/
theorem feedAll_eq_answers_iff (lines : List Str) :
    UxPlayClientTracker.feedAll {} lines = Connections.answers {} lines ↔
      ∀ front, front <+: lines →
        0 < (front.foldl Connections.after {}).opened →
          (front.foldl Connections.after {}).mirrorStops <
            (front.foldl Connections.after {}).opened :=
  Tracks.answers_iff (.inl ⟨rfl, rfl⟩)

/-- The mirror stream of a phone ends and its connection stays open: the phone is reported gone. -/
theorem mirror_stop_reported_as_disconnect :
    UxPlayClientTracker.feedAll {} ["Accepted IPv4 client on socket 12".toList,
        "raop_rtp_mirror stopping".toList] = [some .connected, some .disconnected] ∧
      Connections.answers {} ["Accepted IPv4 client on socket 12".toList,
        "raop_rtp_mirror stopping".toList] = [some .connected, none] ∧
      (["Accepted IPv4 client on socket 12".toList, "raop_rtp_mirror stopping".toList].foldl
        Connections.after {}).opened = 1 := by
  repeat rw [String.toList_ofList]
  decide +kernel

end Castd.Airplay
