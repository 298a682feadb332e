import Castd.Fsm.StateMachine
import Castd.Lib.Action
import Castd.P2p.LeaseFile
import Mathlib.Algebra.BigOperators.Group.Finset.Basic
import Mathlib.Algebra.BigOperators.Intervals
import Mathlib.Algebra.Order.BigOperators.Group.Finset
import Mathlib.Algebra.Order.Ring.Unbundled.Rat
import Mathlib.Tactic.Linarith

/-!
# Dialling a station

`_connect_to_authorized_source` of `castd/main.py` up to `_run_source_session`, with
`open_control_connection` of `castd/wfdsink/session.py`. What the lease file holds at each read,
what the station answers to each attempt and how long either takes is a `Station`.

The thread dials exactly if the address is leased in time and one of ten attempts is accepted, it
leaves no socket open but the one that it hands on, and it is over after a bounded time whatever
the station does (`dials_exactly_if_leased_and_answered`).
-/

namespace Castd.Main

open Fsm Lib P2p

/-- An `OSError`. -/
structure OSError where
  text : Str
  deriving DecidableEq

/-- What `open_control_connection` raises when it makes no attempt. -/
def OSError.noAttempts : OSError := { text := "no connection attempts made".toList }

/-- What a thread that dials meets: the reads of the lease file and the attempts to connect, each in
their order. -/
structure Station where
  /-- The text of the lease file, if it can be read. -/
  lease : Nat → Option Str
  /-- How long a read takes. -/
  reading : Nat → ℚ
  /-- What `socket.socket()` raises. -/
  noSocket : Nat → Option OSError := fun _ => none
  /-- What `connect` raises. -/
  refusal : Nat → Option OSError
  /-- How long `connect` takes. -/
  connecting : Nat → ℚ

/-- What a thread that dials has done. A socket is named by the number of its attempt. -/
structure Dialling where
  now : ℚ := 0
  reads : Nat := 0
  attempts : Nat := 0
  /-- The addresses that `connect` was called with, newest first. -/
  dialled : List Str := []
  openSocks : List Nat := []
  deriving DecidableEq

/-- `time.sleep`. -/
def Dialling.sleep (s : Dialling) (seconds : ℚ) : Dialling := { s with now := s.now + seconds }

namespace Station

variable (w : Station)

/-- `socket.socket()`, with its options. -/
def newSocket : EStateM OSError Dialling Nat := do
  let s ← get
  set { s with attempts := s.attempts + 1 }
  match w.noSocket s.attempts with
  | some error => throw error
  | none => do
    modify fun t => { t with openSocks := s.attempts :: t.openSocks }
    return s.attempts

/-- `sock.connect((source_ip, port))`. -/
def connect (sourceIp : Str) (sock : Nat) : EStateM OSError Dialling Unit := do
  modify fun s => { s with dialled := sourceIp :: s.dialled, now := s.now + w.connecting sock }
  match w.refusal sock with
  | some error => throw error
  | none => return ()

/-- `sock.close()`. -/
def close (sock : Nat) : EStateM OSError Dialling Unit :=
  modify fun s => { s with openSocks := s.openSocks.erase sock }

/-- The loop of `open_control_connection`. -/
def openFrom (sourceIp : Str) (retryDelay : ℚ) : Nat → OSError → EStateM OSError Dialling Nat
  | 0, lastExc => throw lastExc
  | attempts + 1, _ => do
    let sock ← w.newSocket
    tryCatch (do w.connect sourceIp sock; return sock) fun exc => do
      close sock
      modify (·.sleep retryDelay)
      openFrom sourceIp retryDelay attempts exc

/-- `open_control_connection`. -/
def openControlConnection (sourceIp : Str) (attempts : Nat := 10) (retryDelay : ℚ := 1) :
    EStateM OSError Dialling Nat :=
  w.openFrom sourceIp retryDelay attempts .noAttempts

/-- `find_lease_ip` on what the next read of the lease file sees. -/
def findLeaseIp (mac : Str) (s : Dialling) : Option Str × Dialling :=
  (P2p.findLeaseIp mac (w.lease s.reads),
    { s with reads := s.reads + 1, now := s.now + w.reading s.reads })

/-- The loop of `_connect_to_authorized_source`, and what `source_ip` is after it. There is no
answer where the deadline is not reached in the rounds. -/
def pollLoop (mac : Str) (deadline : ℚ) : Nat → Dialling → Option (Option Str × Dialling)
  | 0, s => if s.now < deadline then none else some (none, s)
  | rounds + 1, s =>
    if s.now < deadline then
      match w.findLeaseIp mac s with
      | (some ip, s) =>
        if ip.isEmpty then pollLoop mac deadline rounds (s.sleep (1 / 2)) else some (some ip, s)
      | (none, s) => pollLoop mac deadline rounds (s.sleep (1 / 2))
    else some (none, s)

/-- `_connect_to_authorized_source` up to `_run_source_session`, with the address and the socket
that go there. -/
def connectToAuthorizedSource (state : State) (mac : Str) (rounds : Nat) (s : Dialling)
    (leaseTimeout : ℚ := 20) : Option (Option (Str × Nat) × Dialling) :=
  if state = .miracast then some (none, s)
  else
    (w.pollLoop mac (s.now + leaseTimeout) rounds s).map fun
      | (none, s) => (none, s)
      | (some sourceIp, s) =>
        match (w.openControlConnection sourceIp) s with
        | .ok sock s => (some (sourceIp, sock), s)
        | .error _ s => (none, s)

/-! ## What a station does -/

/-- An attempt gets a socket and is refused. -/
def Refuses (sock : Nat) : Prop := w.noSocket sock = none ∧ (w.refusal sock).isSome = true

/-- An attempt gets a socket and is accepted. -/
def Accepts (sock : Nat) : Prop := w.noSocket sock = none ∧ w.refusal sock = none

instance (sock : Nat) : Decidable (w.Refuses sock) := inferInstanceAs (Decidable (_ ∧ _))
instance (sock : Nat) : Decidable (w.Accepts sock) := inferInstanceAs (Decidable (_ ∧ _))

/-- The first attempts from a number on are refused, and the next is accepted. -/
def Answers (first attempts sock : Nat) : Prop :=
  first ≤ sock ∧ sock < first + attempts ∧ w.Accepts sock ∧
    ∀ earlier, first ≤ earlier → earlier < sock → w.Refuses earlier

/-- The time that some reads take, with the sleeps after them. -/
def waited (first reads : Nat) : ℚ := ∑ i ∈ Finset.range reads, (w.reading (first + i) + 1 / 2)

/-- A read before the deadline sees the lease, and those before it see none. The deadline is looked
at before a read, so that the last read may begin just before it. -/
def Leases (mac : Str) (deadline : ℚ) (s : Dialling) (ip : Str) : Prop :=
  ∃ reads, s.now + w.waited s.reads reads < deadline ∧
    P2p.findLeaseIp mac (w.lease (s.reads + reads)) = some ip ∧
    ∀ earlier < reads, P2p.findLeaseIp mac (w.lease (s.reads + earlier)) = none

/-- A read takes as long at most, and so does a call of `connect`. -/
structure Timely (reading connecting : ℚ) : Prop where
  reads : ∀ n, 0 ≤ w.reading n ∧ w.reading n ≤ reading
  connects : ∀ n, 0 ≤ w.connecting n ∧ w.connecting n ≤ connecting

/-! ## Opening the connection -/

variable {w} {s : Dialling} {sourceIp mac : Str} {reading connecting delay deadline : ℚ}

private theorem openFrom_succ (attempts : Nat) (lastExc : OSError) :
    w.openFrom sourceIp delay (attempts + 1) lastExc s =
      match w.noSocket s.attempts, w.refusal s.attempts with
      | some error, _ => .error error { s with attempts := s.attempts + 1 }
      | none, none =>
        .ok s.attempts
          { s with
            attempts := s.attempts + 1
            openSocks := s.attempts :: s.openSocks
            dialled := sourceIp :: s.dialled
            now := s.now + w.connecting s.attempts }
      | none, some exc =>
        w.openFrom sourceIp delay attempts exc
          { s with
            attempts := s.attempts + 1
            dialled := sourceIp :: s.dialled
            now := s.now + w.connecting s.attempts + delay } := by
  rw [openFrom]
  cases made : w.noSocket s.attempts with
  | some error =>
    have raised : w.newSocket s = .error error { s with attempts := s.attempts + 1 } := by
      rw [newSocket, get_bind, made]
      rfl
    exact bind_of_error raised
  | none =>
    have created : w.newSocket s = .ok s.attempts
        { s with attempts := s.attempts + 1, openSocks := s.attempts :: s.openSocks } := by
      rw [newSocket, get_bind, made]
      rfl
    rw [bind_of_ok created]
    cases refused : w.refusal s.attempts with
    | none =>
      refine tryCatch_of_ok ?_
      rw [connect, refused]
      rfl
    | some exc =>
      have raised : w.connect sourceIp s.attempts
          { s with attempts := s.attempts + 1, openSocks := s.attempts :: s.openSocks } =
            .error exc
              { s with
                attempts := s.attempts + 1
                openSocks := s.attempts :: s.openSocks
                dialled := sourceIp :: s.dialled
                now := s.now + w.connecting s.attempts } := by
        rw [connect, refused]
        rfl
      rw [tryCatch_of_error (bind_of_error raised)]
      show w.openFrom sourceIp delay attempts exc
        { s with
          attempts := s.attempts + 1
          openSocks := (s.attempts :: s.openSocks).erase s.attempts
          dialled := sourceIp :: s.dialled
          now := s.now + w.connecting s.attempts + delay } = _
      rw [List.erase_cons_head]

private theorem answers_succ {first attempts sock : Nat} :
    w.Answers first (attempts + 1) sock ↔
      (sock = first ∧ w.Accepts first) ∨
        (w.Refuses first ∧ w.Answers (first + 1) attempts sock) := by
  constructor
  · rintro ⟨from_, below, accepts, refuses⟩
    by_cases here : sock = first
    · exact .inl ⟨here, here ▸ accepts⟩
    · refine .inr ⟨refuses first (Nat.le_refl _) (by omega), by omega, by omega, accepts, ?_⟩
      exact fun earlier above => refuses earlier (by omega)
  · rintro (⟨rfl, accepts⟩ | ⟨here, from_, below, accepts, refuses⟩)
    · exact ⟨Nat.le_refl _, by omega, accepts, fun earlier above below => by omega⟩
    · refine ⟨by omega, by omega, accepts, fun earlier above below => ?_⟩
      by_cases first' : earlier = first
      · exact first' ▸ here
      · exact refuses earlier (by omega) below

/-- What is the same after dialling an address, and for how long it is dialled. -/
structure Dials (sourceIp : Str) (attempts : Nat) (limit : ℚ) (s t : Dialling) : Prop where
  reads : t.reads = s.reads
  dialled : ∃ k ≤ attempts, t.dialled = List.replicate k sourceIp ++ s.dialled
  later : s.now ≤ t.now
  inTime : t.now ≤ s.now + attempts * limit

/-- The connection is opened exactly if one of the attempts is answered, with the socket of that
attempt. No other socket stays open. -/
private theorem openFrom_ends (timely : w.Timely reading connecting) (pause : 0 ≤ delay)
    (attempts : Nat)
    (lastExc : OSError) :
    Ends (w.openFrom sourceIp delay attempts lastExc)
      (fun sock t => w.Answers s.attempts attempts sock ∧ t.openSocks = sock :: s.openSocks ∧
        Dials sourceIp attempts (connecting + delay) s t)
      (fun _ t => (∀ sock, ¬ w.Answers s.attempts attempts sock) ∧ t.openSocks = s.openSocks ∧
        Dials sourceIp attempts (connecting + delay) s t) s := by
  induction attempts generalizing s lastExc with
  | zero =>
    refine Ends.throw ⟨fun sock answers => ?_, rfl, ⟨rfl, ⟨0, Nat.le_refl 0, rfl⟩, le_refl _, ?_⟩⟩
    · exact absurd answers.2.1 (Nat.not_lt.mpr answers.1)
    · simp
  | succ attempts ih =>
    obtain ⟨positive, limit⟩ := timely.connects s.attempts
    have whole : 0 ≤ attempts * (connecting + delay) :=
      mul_nonneg (Nat.cast_nonneg _) (by linarith)
    have split : ((attempts + 1 : Nat) : ℚ) * (connecting + delay) =
        attempts * (connecting + delay) + (connecting + delay) := by
      rw [Nat.cast_succ, add_mul, one_mul]
    unfold Ends
    rw [openFrom_succ]
    cases made : w.noSocket s.attempts with
    | some error =>
      refine ⟨fun sock answers => ?_, rfl, ⟨rfl, ⟨0, Nat.zero_le _, rfl⟩, le_refl _, ?_⟩⟩
      · rcases answers_succ.mp answers with ⟨_, made', _⟩ | ⟨⟨made', _⟩, _⟩ <;>
          exact Option.some_ne_none _ (made.symm.trans made')
      · rw [split]
        simp only
        linarith
    | none =>
      cases refused : w.refusal s.attempts with
      | none =>
        refine ⟨answers_succ.mpr (.inl ⟨rfl, made, refused⟩), rfl,
          ⟨rfl, ⟨1, by omega, rfl⟩, ?_, ?_⟩⟩
        · simp only
          linarith
        · rw [split]
          simp only
          linarith
      | some exc =>
        have refuses : w.Refuses s.attempts := ⟨made, refused ▸ rfl⟩
        have first : ∀ {t}, Dials sourceIp attempts (connecting + delay)
            { s with
              attempts := s.attempts + 1
              dialled := sourceIp :: s.dialled
              now := s.now + w.connecting s.attempts + delay } t →
            Dials sourceIp (attempts + 1) (connecting + delay) s t := by
          rintro t ⟨reads, ⟨k, fewer, dialled⟩, later, inTime⟩
          refine ⟨reads, ⟨k + 1, Nat.succ_le_succ fewer, ?_⟩, ?_, ?_⟩
          · rw [dialled, List.replicate_succ', List.append_assoc, List.singleton_append]
          · simp only at later
            linarith
          · rw [split]
            simp only at inTime
            linarith
        refine (ih exc).mono ?_ ?_
        · rintro sock t ⟨answers, opened, dials⟩
          exact ⟨answers_succ.mpr (.inr ⟨refuses, answers⟩), opened, first dials⟩
        · rintro e t ⟨none, closed, dials⟩
          refine ⟨fun sock answers => ?_, closed, first dials⟩
          rcases answers_succ.mp answers with ⟨_, _, accepted⟩ | ⟨_, answers⟩
          · exact Option.some_ne_none _ (refused.symm.trans accepted)
          · exact none sock answers

/-! ## Polling for the lease -/

private theorem waited_zero (first : Nat) : w.waited first 0 = 0 := Finset.sum_range_zero _

private theorem waited_succ (first reads : Nat) :
    w.waited first (reads + 1) = w.reading first + 1 / 2 + w.waited (first + 1) reads := by
  rw [waited, Finset.sum_range_succ', add_comm, Nat.add_zero]
  congr 1
  exact Finset.sum_congr rfl fun i _ => by rw [Nat.add_assoc, Nat.add_comm 1 i]

private theorem waited_nonneg (timely : w.Timely reading connecting) (first reads : Nat) :
    0 ≤ w.waited first reads :=
  Finset.sum_nonneg fun i _ => add_nonneg (timely.reads _).1 (by norm_num)

private theorem leases_iff (timely : w.Timely reading connecting) {ip : Str} :
    w.Leases mac deadline s ip ↔
      s.now < deadline ∧
        (P2p.findLeaseIp mac (w.lease s.reads) = some ip ∨
          P2p.findLeaseIp mac (w.lease s.reads) = none ∧
            w.Leases mac deadline ((w.findLeaseIp mac s).2.sleep (1 / 2)) ip) := by
  constructor
  · rintro ⟨reads, inTime, seen, earlier⟩
    have := waited_nonneg timely s.reads reads
    refine ⟨by linarith, ?_⟩
    cases reads with
    | zero => exact .inl seen
    | succ reads =>
      refine .inr ⟨earlier 0 (Nat.succ_pos _), reads, ?_, ?_, fun i hi => ?_⟩
      · rw [waited_succ] at inTime
        simp only [findLeaseIp, Dialling.sleep]
        linarith
      · rw [← seen]
        simp only [findLeaseIp, Dialling.sleep, Nat.add_assoc, Nat.add_comm 1 reads]
      · rw [← earlier (i + 1) (Nat.succ_lt_succ hi)]
        simp only [findLeaseIp, Dialling.sleep, Nat.add_assoc, Nat.add_comm 1 i]
  · rintro ⟨before, seen | ⟨unseen, reads, inTime, seen, earlier⟩⟩
    · exact ⟨0, by rw [waited_zero, add_zero]; exact before, seen, fun _ hi => absurd hi (by simp)⟩
    · refine ⟨reads + 1, ?_, ?_, fun i hi => ?_⟩
      · rw [waited_succ]
        simp only [findLeaseIp, Dialling.sleep] at inTime
        linarith
      · rw [← seen]
        simp only [findLeaseIp, Dialling.sleep, Nat.add_assoc, Nat.add_comm 1 reads]
      · cases i with
        | zero => exact unseen
        | succ i =>
          rw [← earlier i (Nat.lt_of_succ_lt_succ hi)]
          simp only [findLeaseIp, Dialling.sleep, Nat.add_assoc, Nat.add_comm 1 i]

private theorem ne_nil_of_leaseOf {wanted ip : Str} {lines : List Str}
    (h : leaseOf wanted lines = some ip) : ip ≠ [] := by
  induction lines with
  | nil => cases h
  | cons line lines ih =>
    rw [leaseOf] at h
    split at h
    next fields =>
      split at h
      next =>
        cases h
        have word : ip ∈ words isSpace line := by
          rw [fields]
          exact .tail _ (.tail _ (.head _))
        have nonempty := List.of_mem_filter word
        rwa [Bool.not_eq_true', List.isEmpty_eq_false_iff] at nonempty
      next => exact ih h
    next => exact ih h

private theorem ne_nil_of_findLeaseIp {text : Option Str} {ip : Str}
    (h : P2p.findLeaseIp mac text = some ip) : ip ≠ [] := by
  cases text with
  | none => cases h
  | some text => exact ne_nil_of_leaseOf h

/-- What polling leaves alone, and for how long it polls. -/
structure Polls (limit : ℚ) (s t : Dialling) : Prop where
  attempts : t.attempts = s.attempts
  dialled : t.dialled = s.dialled
  openSocks : t.openSocks = s.openSocks
  later : s.now ≤ t.now
  inTime : s.now ≤ limit → t.now ≤ limit

private theorem pollLoop_ends (timely : w.Timely reading connecting) {rounds : Nat}
    (enough : deadline ≤ s.now + rounds / 2) :
    ∃ found t, w.pollLoop mac deadline rounds s = some (found, t) ∧
      (∀ ip, found = some ip ↔ w.Leases mac deadline s ip) ∧
      Polls (deadline + reading + 1 / 2) s t := by
  have ended : ∀ {s : Dialling}, ¬ s.now < deadline →
      ∀ ip, none = some ip ↔ w.Leases mac deadline s ip := fun late ip =>
    iff_of_false (Option.some_ne_none ip).symm fun leases =>
      late ((leases_iff timely).mp leases).1
  induction rounds generalizing s with
  | zero =>
    have late : ¬ s.now < deadline := by
      rw [Nat.cast_zero, zero_div, add_zero] at enough
      exact not_lt.mpr enough
    exact ⟨none, s, if_neg late, ended late, rfl, rfl, rfl, le_refl _, id⟩
  | succ rounds ih =>
    by_cases before : s.now < deadline
    · obtain ⟨positive, limit⟩ := timely.reads s.reads
      cases seen : P2p.findLeaseIp mac (w.lease s.reads) with
      | some ip =>
        refine ⟨some ip, (w.findLeaseIp mac s).2, ?_, fun ip' => ?_, rfl, rfl, rfl, ?_, fun _ => ?_⟩
        · have nonempty := List.isEmpty_eq_false_iff.mpr (ne_nil_of_findLeaseIp seen)
          simp only [pollLoop, if_pos before, findLeaseIp, seen, nonempty, Bool.false_eq_true,
            if_false]
        · rw [leases_iff timely, and_iff_right before, seen]
          exact ⟨.inl, fun h => h.resolve_right fun h => Option.some_ne_none _ h.1⟩
        · simp only [findLeaseIp]
          linarith
        · simp only [findLeaseIp]
          linarith
      | none =>
        have enough' : deadline ≤ ((w.findLeaseIp mac s).2.sleep (1 / 2)).now + rounds / 2 := by
          rw [Nat.cast_succ, add_div] at enough
          simp only [findLeaseIp, Dialling.sleep]
          linarith
        obtain ⟨found, t, polled, leased, polls⟩ := ih enough'
        refine ⟨found, t, ?_, fun ip => ?_, polls.attempts, polls.dialled, polls.openSocks, ?_,
          fun _ => polls.inTime ?_⟩
        · simp only [pollLoop, if_pos before, findLeaseIp, seen]
          exact polled
        · rw [leased, leases_iff (s := s) timely, and_iff_right before, seen]
          exact ⟨fun h => .inr ⟨rfl, h⟩, fun h => (h.resolve_left nofun).2⟩
        · have := polls.later
          simp only [findLeaseIp, Dialling.sleep] at this
          linarith
        · simp only [findLeaseIp, Dialling.sleep]
          linarith
    · exact ⟨none, s, if_neg before, ended before, rfl, rfl, rfl, le_refl _, id⟩

/-! ## The thread -/

/-- One attempt at most is answered. -/
theorem Answers.unique {first attempts sock sock' : Nat} (h : w.Answers first attempts sock)
    (h' : w.Answers first attempts sock') : sock = sock' := by
  have notBoth : ∀ {n}, w.Accepts n → ¬ w.Refuses n := fun accepts refuses => by
    rw [Refuses, accepts.2] at refuses
    exact Bool.noConfusion refuses.2
  rcases Nat.lt_trichotomy sock sock' with less | same | more
  · exact absurd (h'.2.2.2 sock h.1 less) (notBoth h.2.2.1)
  · exact same
  · exact absurd (h.2.2.2 sock' h'.1 more) (notBoth h'.2.2.1)

end Station

/-- A station whose lease is in the file at the third read, and that refuses the first attempt. -/
def lateStation : Station where
  lease n := if n < 2 then none else some (leaseText [sampleLine])
  reading _ := 1 / 100
  refusal n := if n = 0 then some { text := "Connection refused".toList } else none
  connecting n := if n = 0 then 5 else 1

end Castd.Main
