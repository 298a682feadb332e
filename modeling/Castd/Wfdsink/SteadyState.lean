import Castd.Wfdsink.MessageOrder

/-!
# How the steady state ends

`run_steady_state` is to return when the session ends, whatever ends it. It always leaves the
negotiator torn down, but its `try` covers the call of `next_message` alone: it raises where a part
of a message that asks for an ack has no CSeq, where `sendall` raises, and where `int()` is given
too many digits.

`EndsWell` is the condition on the script of the socket, and `runSteadyState_returns_iff` the
statement. What the loop comes to hear is defined on the stream alone (`heardUntilEnd`).
-/

namespace Castd.Wfdsink

open Lib WfdNegotiator

/-! ## What the loop hears -/

/-- The answers from the first that brings no data. -/
def broken : List Recv → List Recv
  | .data (_ :: _) :: inbound => broken inbound
  | inbound => inbound

/-- The break is the end of the answers, a fault or the peer's close. -/
theorem broken_cases (inbound : List Recv) : broken inbound = [] ∨
    (∃ fault later, broken inbound = .raises fault :: later) ∨
      ∃ later, broken inbound = .data [] :: later := by
  induction inbound with
  | nil => exact .inl rfl
  | cons recv inbound ih =>
    cases recv with
    | raises fault => exact .inr (.inl ⟨fault, inbound, rfl⟩)
    | data bytes =>
      cases bytes with
      | nil => exact .inr (.inr ⟨inbound, rfl⟩)
      | cons b bs => exact ih

private theorem arriving_append_broken (inbound : List Recv) :
    arriving inbound ++ (broken inbound).flatMap Recv.bytes = inbound.flatMap Recv.bytes := by
  induction inbound with
  | nil => rfl
  | cons recv inbound ih =>
    cases recv with
    | raises fault => rfl
    | data bytes =>
      cases bytes with
      | nil => rfl
      | cons b bs =>
        show b :: bs ++ arriving inbound ++ (broken inbound).flatMap Recv.bytes =
          b :: bs ++ inbound.flatMap Recv.bytes
        rw [List.append_assoc, ih]

/-- A read takes the frame at the front of what arrives. -/
theorem readMessage_of_frame {inbound : List Recv} {m rest : Bytes} : ∀ {buf : Bytes},
    scanMessage (buf ++ arriving inbound) = .frame m rest →
      ∃ buf' inbound', readMessage buf inbound = (.ok m, buf', inbound') ∧
        buf' ++ arriving inbound' = rest ∧ broken inbound' = broken inbound := by
  induction inbound with
  | nil =>
    intro buf h
    rw [show arriving [] = [] from rfl, List.append_nil] at h
    exact ⟨rest, [], readMessage_frame h [], List.append_nil rest, rfl⟩
  | cons recv inbound ih =>
    intro buf h
    have front : scanMessage buf = .more ∨ ∃ rest', scanMessage buf = .frame m rest' ∧
        rest' ++ arriving (recv :: inbound) = rest := rtspFramer.scan_front_of_frame h
    rcases front with more | ⟨rest', found, left⟩
    · have short : ∀ t : Bytes, t = [] → scanMessage (buf ++ t) ≠ .frame m rest := by
        rintro t rfl whole
        rw [List.append_nil, more] at whole
        cases whole
      cases recv with
      | raises fault => exact absurd h (short _ rfl)
      | data bytes =>
        cases bytes with
        | nil => exact absurd h (short _ rfl)
        | cons b bs =>
          rw [readMessage_cons_of_more more]
          apply ih
          rw [List.append_assoc]
          exact h
    · exact ⟨rest', recv :: inbound, readMessage_frame found _, left, rfl⟩

/-- Where no frame arrives a read comes to the break, with all that arrives in its buffer. -/
theorem readMessage_of_more {inbound : List Recv} : ∀ {buf : Bytes},
    scanMessage (buf ++ arriving inbound) = .more →
      readMessage buf inbound = readMessage (buf ++ arriving inbound) (broken inbound) := by
  have same : ∀ (buf : Bytes) (inbound : List Recv),
      readMessage buf inbound = readMessage (buf ++ []) inbound := by
    intro buf inbound
    rw [List.append_nil]
  induction inbound with
  | nil => exact fun _ => same _ _
  | cons recv inbound ih =>
    intro buf h
    cases recv with
    | raises fault => exact same _ _
    | data bytes =>
      cases bytes with
      | nil => exact same _ _
      | cons b bs =>
        have here : scanMessage buf = .more := rtspFramer.scan_front_of_more h
        rw [show arriving (.data (b :: bs) :: inbound) = b :: bs ++ arriving inbound from rfl,
          ← List.append_assoc] at h ⊢
        rw [readMessage_cons_of_more here]
        exact ih h

/-- The next answer is a fault. -/
def raisesNext : List Recv → Bool
  | .raises _ :: _ => true
  | _ => false

/-- The messages that the loop hears from the bytes that arrive and the answers from the break on,
up to the first that tears down; and whether it comes to a header that announces its body with too
many digits. What is left at the peer's close is heard as a message, and then "". -/
def heardUntilEnd (stream : Bytes) (tail : List Recv) : List Str × Bool :=
  match _hscan : scanMessage stream with
  | .frame m rest =>
    if isTeardown (decode m) then ([decode m], false)
    else
      let later := heardUntilEnd rest tail
      (decode m :: later.1, later.2)
  | .fails _ => ([], true)
  | .more =>
    if raisesNext tail then ([], false)
    else if _hend : isTeardown (decode stream) then ([decode stream], false)
    else
      let later := heardUntilEnd (arriving tail.tail) (broken tail.tail)
      (decode stream :: later.1, later.2)
termination_by stream.length + (tail.flatMap Recv.bytes).length
decreasing_by
  · obtain ⟨cut, some_bytes⟩ := rtspFramer.frame_eq _hscan
    have taken := List.length_pos_iff.mpr some_bytes
    rw [cut, List.length_append]
    omega
  · have some_bytes : 0 < stream.length := by
      rw [List.length_pos_iff]
      rintro rfl
      exact _hend rfl
    have fewer : (tail.tail.flatMap Recv.bytes).length ≤ (tail.flatMap Recv.bytes).length := by
      cases tail with
      | nil => exact Nat.le_refl _
      | cons recv inbound =>
        rw [List.tail_cons, List.flatMap_cons, List.length_append]
        omega
    rw [← List.length_append, arriving_append_broken]
    omega

/-- What the loop hears from a reader. -/
def heardBy (r : RtspReader) : List Str × Bool :=
  heardUntilEnd (r.buf ++ arriving r.sock.inbound) (broken r.sock.inbound)

/-- A message and what is heard after it, unless it tears down. -/
def heardThen (message : Str) (later : List Str × Bool) : List Str × Bool :=
  if isTeardown message then ([message], false) else (message :: later.1, later.2)

section

variable {stream : Bytes} {tail : List Recv}

private theorem heardUntilEnd_frame {m rest : Bytes} (h : scanMessage stream = .frame m rest) :
    heardUntilEnd stream tail = heardThen (decode m) (heardUntilEnd rest tail) := by
  conv =>
    lhs
    unfold heardUntilEnd
  split <;> rename_i found <;> rw [h] at found <;> cases found
  rfl

private theorem heardUntilEnd_fails {e : PyError} (h : scanMessage stream = .fails e) :
    heardUntilEnd stream tail = ([], true) := by
  unfold heardUntilEnd
  split <;> rename_i found <;> rw [h] at found <;> cases found

private theorem heardUntilEnd_raises (h : scanMessage stream = .more)
    (raises : raisesNext tail = true) :
    heardUntilEnd stream tail = ([], false) := by
  unfold heardUntilEnd
  split <;> rename_i found <;> rw [h] at found <;> cases found
  rw [if_pos raises]

private theorem heardUntilEnd_close (h : scanMessage stream = .more)
    (close : raisesNext tail = false) :
    heardUntilEnd stream tail =
      heardThen (decode stream) (heardUntilEnd (arriving tail.tail) (broken tail.tail)) := by
  conv =>
    lhs
    unfold heardUntilEnd
  split <;> rename_i found <;> rw [h] at found <;> cases found
  rw [if_neg (ne_true_of_eq_false close)]
  rfl

end

/-! ## What it answers -/

/-- The parts of the messages that ask for an ack. -/
def owed (messages : List Str) : List Str :=
  messages.flatMap fun message => (split crlf2 message).filter asksForAck

/-- Every part that asks for an ack has a CSeq, and the acks are sent. -/
structure Answered (messages : List Str) (sends : List (Option SockFault)) : Prop where
  numbered : ∀ part ∈ owed messages, (cseqRe.search part).isSome = true
  sent : SendsReturn (owed messages).length sends

/-- All that the loop hears is answered, and no header is too long to read.

The `try` of the loop is around `next_message` alone, and catches `OSError`: the acks are built and
sent outside of it, and `int()` raises `ValueError`. -/
def EndsWell (r : RtspReader) : Prop :=
  (heardBy r).2 = false ∧ Answered (heardBy r).1 r.sock.sends

private theorem sendsReturn_add {j k : Nat} {sends : List (Option SockFault)} :
    SendsReturn (j + k) sends ↔ SendsReturn j sends ∧ SendsReturn k (sends.drop j) := by
  unfold SendsReturn
  rw [List.take_add]
  exact List.forall_mem_append

private theorem answered_cons_iff {message : Str} {messages : List Str}
    {sends : List (Option SockFault)} :
    Answered (message :: messages) sends ↔
      Answered [message] sends ∧ Answered messages (sends.drop (owed [message]).length) := by
  have parts : owed (message :: messages) = owed [message] ++ owed messages := by
    simp [owed]
  constructor
  · rintro ⟨numbered, sent⟩
    rw [parts] at numbered sent
    rw [List.length_append, sendsReturn_add] at sent
    rw [List.forall_mem_append] at numbered
    exact ⟨⟨numbered.1, sent.1⟩, numbered.2, sent.2⟩
  · rintro ⟨⟨numbered, sent⟩, numbered', sent'⟩
    constructor
    · rw [parts, List.forall_mem_append]
      exact ⟨numbered, numbered'⟩
    · rw [parts, List.length_append, sendsReturn_add]
      exact ⟨sent, sent'⟩

/-- A session whose socket has gone on to the outcomes `sends`, and nothing else that a read
depends on has changed. -/
structure SentOn (s s' : ControlSession) (sends : List (Option SockFault)) : Prop where
  negotiator : s'.negotiator = s.negotiator
  buf : s'.reader.buf = s.reader.buf
  inbound : s'.reader.sock.inbound = s.reader.sock.inbound
  sends : s'.reader.sock.sends = sends

theorem SentOn.trans {s s₁ s₂ : ControlSession} {sends sends' : List (Option SockFault)}
    (h : SentOn s s₁ sends) (h' : SentOn s₁ s₂ sends') : SentOn s s₂ sends' where
  negotiator := h'.negotiator.trans h.negotiator
  buf := h'.buf.trans h.buf
  inbound := h'.inbound.trans h.inbound
  sends := h'.sends

/-- An action that sends `k` texts returns when so many calls do, and otherwise raises. -/
def SendsTexts (x : Running Unit) (k : Nat) (s : ControlSession) : Prop :=
  SendsReturn k s.reader.sock.sends ∧
      (∃ s', x s = .ok () s' ∧ SentOn s s' (s.reader.sock.sends.drop k)) ∨
    ¬ SendsReturn k s.reader.sock.sends ∧ ∃ e s', x s = .error e s'

private theorem sendall_sends (text : Str) (s : ControlSession) :
    SendsTexts (sendall text) 1 s := by
  unfold SendsTexts SendsReturn
  cases hsends : s.reader.sock.sends with
  | nil =>
    have sent : sendall text s = .ok () _ := focus_of_ok (by rw [Sock.sendall, hsends])
    exact .inl ⟨List.forall_mem_nil _, _, sent, rfl, rfl, rfl, rfl⟩
  | cons outcome sends =>
    cases outcome with
    | none =>
      have sent : sendall text s = .ok () _ := focus_of_ok (by rw [Sock.sendall, hsends])
      exact .inl ⟨List.forall_mem_singleton.mpr rfl, _, sent, rfl, rfl, rfl, rfl⟩
    | some fault =>
      have raised : sendall text s = .error fault.error _ :=
        focus_of_error (by rw [Sock.sendall, hsends])
      refine .inr ⟨fun all => ?_, _, _, raised⟩
      cases List.forall_mem_singleton.mp all

private theorem sendAll_sends (texts : List Str) : ∀ s : ControlSession,
    SendsTexts (sendAll texts) texts.length s := by
  induction texts with
  | nil => exact fun s => .inl ⟨List.forall_mem_nil _, s, rfl, rfl, rfl, rfl, rfl⟩
  | cons text texts ih =>
    intro s
    unfold SendsTexts
    rw [List.length_cons, Nat.add_comm, sendsReturn_add, ← List.drop_drop, sendAll]
    rcases sendall_sends text s with sent | raised
    · obtain ⟨returns, s₁, sent, on⟩ := sent
      rw [bind_of_ok sent]
      rcases ih s₁ with others | raised
      · obtain ⟨returns', s₂, sent', on'⟩ := others
        rw [on.sends] at returns' on'
        exact .inl ⟨⟨returns, returns'⟩, s₂, sent', on.trans on'⟩
      · obtain ⟨fault, raised⟩ := raised
        rw [on.sends] at fault
        exact .inr ⟨fun all => fault all.2, raised⟩
    · obtain ⟨fault, e, s', raised⟩ := raised
      exact .inr ⟨fun all => fault all.1, e, s', bind_of_error raised⟩

private theorem ackCseqs_cases (entries : List Str) :
    (∃ cseqs, ackCseqs entries = some cseqs ∧ cseqs.length = (entries.filter asksForAck).length ∧
        ∀ part ∈ entries.filter asksForAck, (cseqRe.search part).isSome = true) ∨
      ackCseqs entries = none ∧
        ¬ ∀ part ∈ entries.filter asksForAck, (cseqRe.search part).isSome = true := by
  unfold ackCseqs
  induction entries.filter asksForAck with
  | nil => exact .inl ⟨[], rfl, rfl, List.forall_mem_nil _⟩
  | cons part parts ih =>
    rw [List.mapM_cons, List.forall_mem_cons]
    cases first : cseqRe.search part with
    | none => exact .inr ⟨rfl, fun all => absurd all.1 (by simp)⟩
    | some cseq =>
      rcases ih with found | missing
      · obtain ⟨cseqs, found, size, all⟩ := found
        exact .inl ⟨cseq :: cseqs, by rw [found]; rfl, congrArg (· + 1) size, rfl, all⟩
      · obtain ⟨missing, others⟩ := missing
        exact .inr ⟨by rw [missing]; rfl, fun all => others all.2⟩

private theorem ackMessage_cases {s : ControlSession} (stands : s.negotiator.state = .streaming)
    (message : Str) :
    Answered [message] s.reader.sock.sends ∧
        (∃ s', ackMessage message s = .ok () s' ∧
          SentOn s s' (s.reader.sock.sends.drop (owed [message]).length)) ∨
      ¬ Answered [message] s.reader.sock.sends ∧ ∃ e s', ackMessage message s = .error e s' := by
  have parts : owed [message] = (split crlf2 message).filter asksForAck := by
    simp [owed]
  by_cases empty : message.isEmpty = true
  · obtain rfl := List.isEmpty_iff.mp empty
    exact .inl ⟨⟨List.forall_mem_nil _, List.forall_mem_nil _⟩, s, rfl, rfl, rfl, rfl, rfl⟩
  · rw [ackMessage, if_neg empty]
    rcases ackCseqs_cases (split crlf2 message) with found | missing
    · obtain ⟨cseqs, found, size, all⟩ := found
      have built : onNegotiator (buildSteadyStateAck message) s =
          .ok (cseqs.map okResponse) s := focus_of_ok (buildSteadyStateAck_ok stands found)
      rw [bind_of_ok built]
      have sends := sendAll_sends (cseqs.map okResponse) s
      unfold SendsTexts at sends
      rw [List.length_map, size, ← parts] at sends
      rw [← parts] at all
      rcases sends with sent | raised
      · exact .inl ⟨⟨all, sent.1⟩, sent.2⟩
      · exact .inr ⟨fun answered => raised.1 answered.sent, raised.2⟩
    · obtain ⟨missing, unnumbered⟩ := missing
      rw [← parts] at unnumbered
      obtain ⟨entry, raised⟩ := buildSteadyStateAck_noCseq stands missing
      have raised : onNegotiator (buildSteadyStateAck message) s = .error _ s :=
        focus_of_error raised
      exact .inr ⟨fun answered => unnumbered answered.numbered, _, _, bind_of_error raised⟩

/-! ## The loop -/

/-- What a read of the loop brings: a message and the reader after it, the end by a fault of the
socket, or the exception of a header that is too long to read. -/
private theorem nextSteadyMessage_cases (s : ControlSession) :
    (∃ message buf inbound, nextSteadyMessage s =
        .ok (some message) { s with reader := s.reader.leaving buf inbound } ∧
        heardBy s.reader = heardThen message (heardBy (s.reader.leaving buf inbound))) ∨
      (∃ s', nextSteadyMessage s = .ok none s' ∧ heardBy s.reader = ([], false)) ∨
      ∃ e s', nextSteadyMessage s = .error e s' ∧ heardBy s.reader = ([], true) := by
  have read : ∀ {raw buf inbound}, readMessage s.reader.buf s.reader.sock.inbound =
      (.ok raw, buf, inbound) → nextSteadyMessage s =
        .ok (some (decode raw)) { s with reader := s.reader.leaving buf inbound } := by
    intro raw buf inbound hread
    have hnext : nextMessage s = .ok (decode raw) _ :=
      focus_of_ok (by rw [RtspReader.nextMessage, hread])
    rw [nextSteadyMessage, hnext]
  cases hscan : scanMessage (s.reader.buf ++ arriving s.reader.sock.inbound) with
  | frame m rest =>
    obtain ⟨buf, inbound, hread, left, same⟩ := readMessage_of_frame hscan
    refine .inl ⟨decode m, buf, inbound, read hread, ?_⟩
    rw [heardBy, heardUntilEnd_frame hscan, ← left, ← same]
    rfl
  | fails e =>
    obtain ⟨rfl, long⟩ := scanMessage_fails_iff.mp hscan
    have raises := readMessage_valueError_iff.mpr long
    right; right
    cases hread : readMessage s.reader.buf s.reader.sock.inbound with
    | mk outcome left =>
      obtain ⟨buf, inbound⟩ := left
      rw [hread] at raises
      obtain rfl : outcome = .error .valueError := raises
      have hnext : nextMessage s = .error .valueError _ :=
        focus_of_error (by rw [RtspReader.nextMessage, hread])
      exact ⟨.valueError, _, by rw [nextSteadyMessage, hnext], heardUntilEnd_fails hscan⟩
  | more =>
    have hread := readMessage_of_more hscan
    -- the peer's close brings what has arrived
    have closes : ∀ inbound, (broken s.reader.sock.inbound).tail = inbound →
        raisesNext (broken s.reader.sock.inbound) = false →
        readMessage s.reader.buf s.reader.sock.inbound =
          (.ok (s.reader.buf ++ arriving s.reader.sock.inbound), [], inbound) →
        ∃ message buf inbound, nextSteadyMessage s =
          .ok (some message) { s with reader := s.reader.leaving buf inbound } ∧
          heardBy s.reader = heardThen message (heardBy (s.reader.leaving buf inbound)) := by
      rintro inbound rfl close hread
      exact ⟨_, [], _, read hread, heardUntilEnd_close hscan close⟩
    rcases broken_cases s.reader.sock.inbound with ends | raises | close
    · left
      apply closes [] (by rw [ends]; rfl) (by rw [ends]; rfl)
      rw [hread, ends]
      unfold readMessage
      rw [hscan]
    · obtain ⟨fault, later, raises⟩ := raises
      right; left
      have raised : readMessage s.reader.buf s.reader.sock.inbound =
          (.error fault.error, s.reader.buf ++ arriving s.reader.sock.inbound, later) := by
        rw [hread, raises]
        unfold readMessage
        rw [hscan]
      have hnext : nextMessage s = .error fault.error _ :=
        focus_of_error (by rw [RtspReader.nextMessage, raised])
      have ended : nextSteadyMessage s = .ok none { s with
          reader := s.reader.leaving (s.reader.buf ++ arriving s.reader.sock.inbound) later } := by
        rw [nextSteadyMessage, hnext]
        cases fault <;> rfl
      exact ⟨_, ended, heardUntilEnd_raises hscan (by rw [raises]; rfl)⟩
    · obtain ⟨later, close⟩ := close
      left
      apply closes later (by rw [close]; rfl) (by rw [close]; rfl)
      rw [hread, close]
      unfold readMessage
      rw [hscan]

private theorem steadyLoop_returns_iff : ∀ {s : ControlSession}, s.negotiator.state = .streaming →
    ((∃ s', steadyLoop s = .ok () s') ↔ EndsWell s.reader) := by
  intro s
  -- the bytes the reader has left to return
  induction size : s.reader.unread.length using Nat.strongRecOn generalizing s with
  | ind k ih =>
    intro stands
    rw [steadyLoop_eq, EndsWell]
    rcases nextSteadyMessage_cases s with heard | ended | long
    · obtain ⟨message, buf, inbound, read, heard⟩ := heard
      have round : steadyRound s = (do ackMessage message; return !isTeardown message)
          { s with reader := s.reader.leaving buf inbound } := by
        rw [steadyRound, bind_of_ok read]
      have acks := ackMessage_cases (s := { s with reader := s.reader.leaving buf inbound })
        stands message
      rw [heard]
      rcases acks with acked | raised
      · obtain ⟨answered, s₁, acked, on⟩ := acked
        rw [bind_of_ok acked] at round
        cases ends : isTeardown message with
        | true =>
          rw [ends] at round
          rw [round, heardThen, if_pos ends]
          exact iff_of_true ⟨s₁, rfl⟩ ⟨rfl, answered⟩
        | false =>
          rw [ends] at round
          have less := steadyRound_unread round
          rw [round, heardThen, if_neg (ne_true_of_eq_false ends)]
          have later := ih _ (size ▸ less) rfl (on.negotiator ▸ stands)
          have same : heardBy s₁.reader = heardBy (s.reader.leaving buf inbound) := by
            rw [heardBy, on.buf, on.inbound]
            rfl
          rw [EndsWell, same, on.sends] at later
          refine later.trans (and_congr_right fun _ => ?_)
          rw [answered_cons_iff]
          exact (and_iff_right answered).symm
      · obtain ⟨unanswered, e, s₁, raised⟩ := raised
        rw [bind_of_error raised] at round
        rw [round]
        refine iff_of_false (fun returns => ?_) fun ends => ?_
        · obtain ⟨s', returns⟩ := returns
          cases returns
        · apply unanswered
          unfold heardThen at ends
          split at ends
          · exact ends.2
          · exact (answered_cons_iff.mp ends.2).1
    · obtain ⟨s', ended, heard⟩ := ended
      have round : steadyRound s = .ok false s' := by
        rw [steadyRound, bind_of_ok ended]
        rfl
      rw [round, heard]
      exact iff_of_true ⟨s', rfl⟩ ⟨rfl, List.forall_mem_nil _, List.forall_mem_nil _⟩
    · obtain ⟨e, s', raised, heard⟩ := long
      have round : steadyRound s = .error e s' := by
        rw [steadyRound, bind_of_error raised]
      rw [round, heard]
      refine iff_of_false (fun returns => ?_) fun ends => ?_
      · obtain ⟨s', returns⟩ := returns
        cases returns
      · cases ends.1

/-- For every negotiator in STREAMING, every script of the socket and every buffer of the reader:
`run_steady_state` returns and leaves the negotiator torn down exactly when the socket takes the
timeout, every part that asks for an ack, of all the messages it hears up to the end, has a CSeq,
the first so many calls of `sendall` return, and no header is too long to read. -/
theorem runSteadyState_returns_iff {s : ControlSession}
    (stands : s.negotiator.state = .streaming) :
    (∃ s', runSteadyState s = .ok () s' ∧ s'.negotiator.state = .tornDown) ↔
      s.reader.sock.SetsTimeout ∧ EndsWell s.reader := by
  rcases settimeout_cases s with ⟨sets, timeouts, set⟩ | ⟨not, fault, timeouts, raised⟩
  · have loops := steadyLoop_returns_iff (s := s.timeoutSet timeouts) stands
    have last : ∀ s', onNegotiator markTornDown s' =
        .ok () { s' with negotiator := { s'.negotiator with state := .tornDown } } :=
      fun _ => focus_of_ok rfl
    have ends : tryFinally steadyLoop (onNegotiator markTornDown) (s.timeoutSet timeouts) = _ :=
      tryFinally_eq
    rw [last] at ends
    rw [runSteadyState, bind_of_ok set, ends, and_iff_right sets]
    refine Iff.trans ?_ loops
    cases hloop : steadyLoop (s.timeoutSet timeouts) with
    | ok a s' => exact iff_of_true ⟨_, rfl, rfl⟩ ⟨s', rfl⟩
    | error e s' =>
      refine iff_of_false (fun returns => ?_) fun returns => ?_
      · obtain ⟨_, returns, _⟩ := returns
        cases returns
      · obtain ⟨_, returns⟩ := returns
        cases returns
  · rw [runSteadyState, bind_of_error raised]
    refine iff_of_false (fun returns => ?_) fun ends => not ends.1
    obtain ⟨_, returns, _⟩ := returns
    cases returns

/-! ## Endings -/

/-- A session in STREAMING on a socket with these answers and outcomes. -/
def streamingSession (inbound : List Recv) (sends : List (Option SockFault)) : ControlSession :=
  { reader := { sock := { inbound := inbound, sends := sends } }
    negotiator := { WfdNegotiator.new {} 1028 with state := .streaming } }

/-- A keep-alive that is cut inside its blank line, and the start of another. -/
def keepAliveAndClose : List Recv := [
  .data (encode "GET_PARAMETER * RTSP/1.0\r\nCSeq: 5\r\n".toList),
  .data (encode "\r\nGET_PARAMETER * RTSP/1.0\r\nCSeq: 6".toList)]

theorem runSteadyState_returns_of_keep_alive :
    ∃ s', runSteadyState (streamingSession keepAliveAndClose []) = .ok () s' ∧
      s'.negotiator.state = .tornDown := by
  have stands : (streamingSession keepAliveAndClose []).negotiator.state = .streaming := rfl
  apply (runSteadyState_returns_iff stands).mpr
  have first : scanMessage (arriving keepAliveAndClose) =
      .frame (encode "GET_PARAMETER * RTSP/1.0\r\nCSeq: 5\r\n\r\n".toList)
        (encode "GET_PARAMETER * RTSP/1.0\r\nCSeq: 6".toList) := by
    decide +kernel
  have last : scanMessage (encode "GET_PARAMETER * RTSP/1.0\r\nCSeq: 6".toList) = .more := by
    decide +kernel
  have nothing : scanMessage [] = .more := rfl
  have heard : heardBy (streamingSession keepAliveAndClose []).reader =
      (["GET_PARAMETER * RTSP/1.0\r\nCSeq: 5\r\n\r\n".toList,
        "GET_PARAMETER * RTSP/1.0\r\nCSeq: 6".toList, []], false) := by
    show heardUntilEnd (arriving keepAliveAndClose) [] = _
    rw [heardUntilEnd_frame first, heardUntilEnd_close last rfl]
    show heardThen _ (heardThen _ (heardUntilEnd [] [])) = _
    rw [heardUntilEnd_close nothing rfl]
    decide +kernel
  rw [EndsWell, heard]
  refine ⟨rfl, rfl, ⟨?_, ?_⟩⟩
  · decide +kernel
  · exact fun outcome found => absurd found (by simp [streamingSession])

private theorem runSteadyState_of_round {s : ControlSession} (set : settimeout s = .ok () s)
    (raises : valueOf (steadyRound s) = none) : ¬ ∃ s', runSteadyState s = .ok () s' := by
  cases hround : steadyRound s with
  | ok goesOn s' =>
    rw [hround] at raises
    cases raises
  | error e s' =>
    have loop : steadyLoop s = .error e s' := by rw [steadyLoop_eq, hround]
    rintro ⟨s₁, returns⟩
    have ends : tryFinally steadyLoop (onNegotiator markTornDown) s = _ := tryFinally_eq
    rw [runSteadyState, bind_of_ok set] at returns
    rw [loop, returns] at ends
    cases ends

/-- A source whose keep-alive has no CSeq. -/
def unnumberedSource : ControlSession :=
  streamingSession [.data (encode "GET_PARAMETER * RTSP/1.0\r\n\r\n".toList)] []

/-- A source that asks for the teardown and resets the connection. -/
def resettingSource : ControlSession :=
  streamingSession [.data teardown.message] [some .osError]

/-- A socket that the stream watchdog has closed. -/
def closedSocket : ControlSession :=
  { reader := { sock := { inbound := [.raises .osError], sends := [some .osError]
                          timeouts := [some .osError] } }
    negotiator := { WfdNegotiator.new {} 1028 with state := .streaming } }

/-- A keep-alive without a CSeq, a reset while the final teardown is acked, and a socket that is
closed before its timeout is set: all end in an exception, and the last one in STREAMING. -/
theorem steady_state_raises :
    (unnumberedSource.negotiator.state = .streaming ∧
      ¬ ∃ s', runSteadyState unnumberedSource = .ok () s' ∧ s'.negotiator.state = .tornDown) ∧
    (resettingSource.negotiator.state = .streaming ∧
      ¬ ∃ s', runSteadyState resettingSource = .ok () s' ∧ s'.negotiator.state = .tornDown) ∧
    ∃ s', closedSocket.negotiator.state = .streaming ∧
      runSteadyState closedSocket = .error .osError s' ∧ s'.negotiator.state = .streaming := by
  have unnumbered : valueOf (steadyRound unnumberedSource) = none := by decide +kernel
  have reset : valueOf (steadyRound resettingSource) = none := by decide +kernel
  have closed : runSteadyState closedSocket =
      .error .osError (closedSocket.timeoutSet []) := bind_of_error rfl
  refine ⟨⟨rfl, fun returns => ?_⟩, ⟨rfl, fun returns => ?_⟩, _, rfl, closed, rfl⟩
  · obtain ⟨s', returns, _⟩ := returns
    exact runSteadyState_of_round rfl unnumbered ⟨s', returns⟩
  · obtain ⟨s', returns, _⟩ := returns
    exact runSteadyState_of_round rfl reset ⟨s', returns⟩

end Castd.Wfdsink
