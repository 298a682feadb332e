import Castd.Lib.Choreography
import Castd.Lib.Encode
import Castd.Wfdsink.SteadyState

/-!
# Threads that follow a script

A thread that talks over a socket reads it through a reader and sends texts. `FollowsFrom` says that
it follows a script of two parties: as far as the pieces that reach it are a front of what the other
party says, it has sent what the script has it say, it waits for more while that front is not the
whole, and it returns once it is. There is a rule for each statement of such a thread.

A thread that waits is one whose next `recv` raises a timeout, so that what it has sent can be read
off the run that ends there.
-/

namespace Castd.Wfdsink

open Lib

/-- The reader has `stream` still to return, in whatever pieces, and nothing comes after it. Every
`sendall` returns, and those before have sent `sent`. -/
structure RtspReader.Waits (r : RtspReader) (stream : Bytes) (sent : List Bytes) : Prop where
  arrives : r.buf ++ arriving r.sock.inbound = stream
  waits : broken r.sock.inbound = [.raises .timeout]
  sends : r.sock.sends = []
  timeouts : r.sock.timeouts = []
  sent : r.sock.sent = sent

namespace RtspReader.Waits

variable {r : RtspReader} {stream m rest : Bytes} {sent : List Bytes}

/-- A frame that has arrived is returned. -/
theorem nextMessage_frame (h : r.Waits stream sent) (frame : IsFrame stream m rest) :
    ∃ r', r.nextMessage = .ok (decode m) r' ∧ r'.Waits rest sent := by
  obtain ⟨rfl, waits, sends, timeouts, sent⟩ := h
  obtain ⟨buf, inbound, read, left, broken⟩ :=
    readMessage_of_frame (scanMessage_eq_frame_iff.mpr frame)
  refine ⟨r.leaving buf inbound, ?_, left, broken.trans waits, sends, timeouts, sent⟩
  rw [RtspReader.nextMessage, read]

/-- Where more has to come, the thread waits. -/
theorem nextMessage_more (h : r.Waits stream sent) (more : scanMessage stream = .more) :
    ∃ r', r.nextMessage = .error .timeoutError r' ∧ r'.sock.sent = sent := by
  obtain ⟨rfl, waits, sends, timeouts, sent⟩ := h
  have read : readMessage r.buf r.sock.inbound =
      (.error .timeoutError, r.buf ++ arriving r.sock.inbound, []) := by
    rw [readMessage_of_more more, waits]
    unfold readMessage
    rw [more]
    rfl
  exact ⟨r.leaving (r.buf ++ arriving r.sock.inbound) [], by rw [RtspReader.nextMessage, read],
    sent⟩

private theorem nextMessage_waits (h : r.Waits stream sent) (frame : IsFrame m m [])
    (front : stream <+: m) (short : stream.length < m.length) :
    ∃ r', r.nextMessage = .error .timeoutError r' ∧ r'.sock.sent = sent := by
  refine h.nextMessage_more ?_
  obtain ⟨missing, whole⟩ := front
  have scan : rtspFramer.scan (stream ++ missing) = .frame m [] := by
    rw [whole]
    exact scanMessage_eq_frame_iff.mpr frame
  rcases rtspFramer.scan_front_of_frame scan with more | ⟨rest, found, _⟩
  · exact more
  · have cut := congrArg List.length (rtspFramer.frame_eq found).1
    simp only [List.length_append] at cut short
    omega

/-- A send is recorded. -/
theorem sendall (h : r.Waits stream sent) (data : Bytes) :
    ∃ sock, r.sock.sendall data = .ok () sock ∧
      ({ r with sock := sock } : RtspReader).Waits stream (sent ++ [data]) := by
  obtain ⟨arrives, waits, sends, timeouts, sent⟩ := h
  have done : r.sock.sendall data =
      .ok () { r.sock with sends := [], sent := r.sock.sent ++ [data] } := by
    rw [Sock.sendall, sends]
  exact ⟨_, done, arrives, waits, rfl, timeouts, by rw [← sent]⟩

end RtspReader.Waits

/-! ## Threads -/

/-- Where a thread keeps its reader, and what it raises where the reader or the socket does. -/
structure Endpoint (ε σ : Type) where
  reader : σ → RtspReader
  setReader : σ → RtspReader → σ
  raised : PyError → ε
  reader_set : ∀ s r, reader (setReader s r) = r
  set_set : ∀ s r r', setReader (setReader s r) r' = setReader s r'

namespace Endpoint

variable {ε σ α β : Type} (E : Endpoint ε σ)

/-- `reader.next_message()`. -/
def nextMessage : EStateM ε σ Str := fun s =>
  match (E.reader s).nextMessage with
  | .ok message r => .ok message (E.setReader s r)
  | .error e r => .error (E.raised e) (E.setReader s r)

/-- `sock.sendall(text.encode())`. -/
def sendall (text : Str) : EStateM ε σ Unit := fun s =>
  match (E.reader s).sock.sendall (encode text) with
  | .ok () sock => .ok () (E.setReader s { E.reader s with sock := sock })
  | .error e sock => .error (E.raised e) (E.setReader s { E.reader s with sock := sock })

/-- What a run has sent. -/
def sentBy (result : EStateM.Result ε σ α) : List Bytes := (E.reader (stateAfter result)).sock.sent

/-- From `s` a thread follows the script as `side`. At its end it returns with `done`, and has read
all that came. -/
def FollowsFrom (side : Side) (s : σ) (x : EStateM ε σ α) (script : Script UInt8)
    (done : α → σ → Prop) : Prop :=
  ∀ (r : RtspReader) (stream : Bytes) (sent : List Bytes), r.Waits stream sent →
    stream <+: (script.of side.other).flatten →
      E.sentBy (x (E.setReader s r)) = sent ++ script.saidBy side stream.length ∧
        (stream = (script.of side.other).flatten → ∃ a s', x (E.setReader s r) = .ok a s' ∧
          done a s' ∧ ∃ all, (E.reader s').Waits [] all) ∧
        (stream ≠ (script.of side.other).flatten →
          ∃ s', x (E.setReader s r) = .error (E.raised .timeoutError) s')

variable {E} {side : Side} {s : σ} {script : Script UInt8} {done : α → σ → Prop}

/-- A thread at the end of the script. -/
theorem followsFrom_return {a : α} (ends : ∀ r, done a (E.setReader s r)) :
    E.FollowsFrom side s (pure a) [] done := by
  intro r stream sent waits front
  obtain rfl := List.prefix_nil.mp front
  refine ⟨?_, fun _ => ⟨a, _, rfl, ends r, sent, ?_⟩, fun more => absurd rfl more⟩
  · show (E.reader (E.setReader s r)).sock.sent = sent ++ []
    rw [E.reader_set, waits.sent, List.append_nil]
  · rw [E.reader_set]
    exact waits

/-- A line of its own is sent. -/
theorem followsFrom_send {text : Str} {k : Unit → EStateM ε σ α}
    (rest : E.FollowsFrom side s (k ()) script done) :
    E.FollowsFrom side s (E.sendall text >>= k) ((side, encode text) :: script) done := by
  intro r stream sent waits front
  rw [Script.of_others side.other_ne.symm] at front ⊢
  obtain ⟨sock, sends, waits'⟩ := waits.sendall (encode text)
  have sent' :
      E.sendall text (E.setReader s r) = .ok () (E.setReader s { r with sock := sock }) := by
    rw [Endpoint.sendall, E.reader_set, sends]
    show EStateM.Result.ok () (E.setReader (E.setReader s r) _) = _
    rw [E.set_set]
  rw [bind_of_ok sent']
  rw [Script.saidBy_own, List.append_cons]
  exact rest _ stream _ waits' front

/-- A line of the other is read. -/
theorem followsFrom_read {text : Str} {k : Str → EStateM ε σ α}
    (frame : IsFrame (encode text) (encode text) [])
    (rest : E.FollowsFrom side s (k text) script done) :
    E.FollowsFrom side s (E.nextMessage >>= k) ((side.other, encode text) :: script) done := by
  intro r stream sent waits front
  rw [Script.of_own, List.flatten_cons] at front ⊢
  rcases Nat.lt_or_ge stream.length (encode text).length with short | arrived
  · have part : stream <+: encode text :=
      List.prefix_of_prefix_length_le front (List.prefix_append _ _) (Nat.le_of_lt short)
    obtain ⟨r', raises, sent'⟩ := waits.nextMessage_waits frame part short
    have raised : E.nextMessage (E.setReader s r) =
        .error (E.raised .timeoutError) (E.setReader s r') := by
      rw [Endpoint.nextMessage, E.reader_set, raises]
      show EStateM.Result.error _ (E.setReader (E.setReader s r) r') = _
      rw [E.set_set]
    rw [bind_of_error raised, Script.saidBy_waiting side.other_ne short, List.append_nil]
    refine ⟨?_, fun whole => ?_, fun _ => ⟨_, rfl⟩⟩
    · show (E.reader (E.setReader s r')).sock.sent = sent
      rw [E.reader_set, sent']
    · have size := congrArg List.length whole
      rw [List.length_append] at size
      omega
  · obtain ⟨after, rfl⟩ : encode text <+: stream :=
      List.prefix_of_prefix_length_le (List.prefix_append _ _) front arrived
    rw [List.prefix_append_right_inj] at front
    have next : IsFrame (encode text ++ after) (encode text) after := ⟨rfl, frame.shape⟩
    obtain ⟨r', read, waits'⟩ := waits.nextMessage_frame next
    rw [decode_encode] at read
    have returns : E.nextMessage (E.setReader s r) = .ok text (E.setReader s r') := by
      rw [Endpoint.nextMessage, E.reader_set, read]
      show EStateM.Result.ok _ (E.setReader (E.setReader s r) r') = _
      rw [E.set_set]
    rw [bind_of_ok returns, Script.saidBy_arrived side.other_ne arrived, List.length_append,
      Nat.add_sub_cancel_left]
    simp only [ne_eq, List.append_cancel_left_eq]
    exact rest r' after sent waits' front

/-- A statement that does not touch the socket. -/
theorem followsFrom_call {x : EStateM ε σ β} {k : β → EStateM ε σ α} {b : β} {s' : σ}
    (calls : ∀ r, x (E.setReader s r) = .ok b (E.setReader s' r))
    (rest : E.FollowsFrom side s' (k b) script done) :
    E.FollowsFrom side s (x >>= k) script done := by
  intro r stream sent waits front
  rw [bind_of_ok (calls r)]
  exact rest r stream sent waits front

end Endpoint

/-! ## Threads as parties -/

/-- A reader to which so many pieces come. -/
def RtspReader.hearing (pieces : List Bytes) : RtspReader :=
  { sock := { inbound := pieces.map .data ++ [.raises .timeout] } }

private theorem RtspReader.waits_hearing {pieces : List Bytes}
    (nonempty : ∀ piece ∈ pieces, piece ≠ []) :
    (RtspReader.hearing pieces).Waits pieces.flatten [] := by
  have inbound : arriving (pieces.map .data ++ [.raises .timeout]) = pieces.flatten ∧
      broken (pieces.map .data ++ [.raises .timeout]) = [.raises .timeout] := by
    induction pieces with
    | nil => exact ⟨rfl, rfl⟩
    | cons piece pieces ih =>
      rw [List.forall_mem_cons] at nonempty
      obtain ⟨arrives, breaks⟩ := ih nonempty.2
      rw [List.map_cons, List.cons_append, arriving_data nonempty.1, arrives, List.flatten_cons]
      obtain ⟨b, bs, rfl⟩ := List.exists_cons_of_ne_nil nonempty.1
      exact ⟨rfl, breaks⟩
  exact ⟨inbound.1, inbound.2, rfl, rfl, rfl⟩

namespace Endpoint

variable {ε σ α : Type} (E : Endpoint ε σ)

/-- How a thread stands to which so many pieces have come. -/
def resultOf (s : σ) (x : EStateM ε σ α) (pieces : List Bytes) : EStateM.Result ε σ α :=
  x (E.setReader s (.hearing pieces))

variable {E} {side : Side} {s : σ} {x : EStateM ε σ α} {script : Script UInt8} {done : α → σ → Prop}

/-- A thread that follows a script is a party that does. -/
theorem FollowsFrom.followsScript (follows : E.FollowsFrom side s x script done) :
    FollowsScript script side fun pieces => E.sentBy (E.resultOf s x pieces) :=
  fun _ nonempty front =>
    (follows _ _ [] (RtspReader.waits_hearing nonempty) front).1.trans (List.nil_append _)

/-- It returns once it has heard everything, and waits before that. -/
theorem FollowsFrom.returns_or_waits (follows : E.FollowsFrom side s x script done)
    {pieces : List Bytes} (nonempty : ∀ piece ∈ pieces, piece ≠ [])
    (front : pieces.flatten <+: (script.of side.other).flatten) :
    (pieces.flatten = (script.of side.other).flatten →
        ∃ a s', E.resultOf s x pieces = .ok a s' ∧ done a s' ∧ ∃ all, (E.reader s').Waits [] all) ∧
      (pieces.flatten ≠ (script.of side.other).flatten →
        ∃ s', E.resultOf s x pieces = .error (E.raised .timeoutError) s') :=
  (follows _ _ [] (RtspReader.waits_hearing nonempty) front).2

end Endpoint

end Castd.Wfdsink
